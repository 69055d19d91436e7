/-! Binary64 numbers. The magnitude of a finite number is held exactly, as a whole
number of units of 2^-1074; an operation is its exact result, rounded once. -/
namespace TextExpr

/-- The first power of two out of range, in units. -/
def overflow : Nat := Nat.pow 2 2098

/-- The least whole number of 53 bits. -/
def leadingBit : Nat := 0x10000000000000

/-- The distance between the numbers with as many bits as `units`. -/
def spacing (units : Nat) : Nat := Nat.pow 2 (units.log2 - 52)

/-- At most 53 leading bits, and in range. -/
def Representable (units : Nat) : Prop := spacing units ∣ units ∧ units < overflow

instance (units : Nat) : Decidable (Representable units) :=
  inferInstanceAs (Decidable (_ ∧ _))

structure Magnitude where
  units : Nat
  representable : Representable units
  deriving DecidableEq

inductive Double where
  | nan
  | inf (negative : Bool)
  | finite (negative : Bool) (magnitude : Magnitude)
  deriving DecidableEq

/-- The quotient to the nearest whole number, a half to the even one. -/
def divEven (num den : Nat) : Nat :=
  let q := num / den
  let twice := 2 * (num % den)
  if twice < den then q else if den < twice then q + 1 else q + q % 2

theorem spacing_pos (units : Nat) : 0 < spacing units := Nat.pow_pos Nat.two_pos

namespace Magnitude

theorem overflow_pos : 0 < overflow := by decide +kernel

def zero : Magnitude := ⟨0, Nat.dvd_zero _, overflow_pos⟩

/-- The units nearest to a quotient, on the grid of its own magnitude. -/
def nearest (num den : Nat) : Nat :=
  divEven num (den * spacing (num / den)) * spacing (num / den)

theorem divEven_le (num den : Nat) : divEven num den ≤ num / den + 1 := by
  unfold divEven
  dsimp only
  split
  · omega
  · split
    · omega
    · have := Nat.mod_lt (num / den) (show 0 < 2 by decide)
      omega

theorem div_spacing_lt (n : Nat) : n / spacing n < 2 * leadingBit := by
  rw [Nat.div_lt_iff_lt_mul (spacing_pos n)]
  show n < Nat.pow 2 53 * Nat.pow 2 (n.log2 - 52)
  simp only [Nat.pow_eq, ← Nat.pow_add]
  exact Nat.lt_of_lt_of_le Nat.lt_log2_self (Nat.pow_le_pow_right (by decide) (by omega))

theorem divEven_spacing_le (num den : Nat) :
    divEven num (den * spacing (num / den)) ≤ 2 * leadingBit := by
  refine Nat.le_trans (divEven_le _ _) ?_
  rw [← Nat.div_div_eq_div_mul]
  exact div_spacing_lt _

/-- At most 53 bits, shifted, are still at most 53 bits. -/
theorem spacing_mul_dvd {k : Nat} (hk : k ≤ 2 * leadingBit) (n : Nat) :
    spacing (k * spacing n) ∣ k * spacing n := by
  rcases Nat.eq_zero_or_pos k with rfl | hpos
  · simp
  have hk : k ≤ Nat.pow 2 53 := hk
  show Nat.pow 2 ((k * Nat.pow 2 (n.log2 - 52)).log2 - 52) ∣ k * Nat.pow 2 (n.log2 - 52)
  simp only [Nat.pow_eq] at hk ⊢
  generalize n.log2 - 52 = s
  have hne : k * 2 ^ s ≠ 0 := Nat.mul_ne_zero (Nat.ne_of_gt hpos) (Nat.ne_of_gt (Nat.two_pow_pos s))
  rcases Nat.lt_or_eq_of_le hk with hlt | rfl
  · have hlog : (k * 2 ^ s).log2 - 52 ≤ s := by
      have : (k * 2 ^ s).log2 < 53 + s := by
        rw [Nat.log2_lt hne, Nat.pow_add]
        exact Nat.mul_lt_mul_of_pos_right hlt (Nat.two_pow_pos s)
      omega
    exact Nat.dvd_trans (Nat.pow_dvd_pow 2 hlog) (Nat.dvd_mul_left _ _)
  · rw [← Nat.pow_add, Nat.log2_two_pow]
    exact Nat.pow_dvd_pow 2 (by omega)

theorem nearest_dvd (num den : Nat) : spacing (nearest num den) ∣ nearest num den :=
  spacing_mul_dvd (divEven_spacing_le num den) (num / den)

end Magnitude

namespace Double

def zero (negative : Bool) : Double := .finite negative Magnitude.zero

/-- The number nearest to a quotient of units, ties to even, out of range an infinity. -/
def ofUnits (negative : Bool) (num den : Nat) : Double :=
  if h : Magnitude.nearest num den < overflow then
    .finite negative ⟨Magnitude.nearest num den, Magnitude.nearest_dvd num den, h⟩
  else .inf negative

/-- Units in the number one. -/
def one : Nat := Nat.pow 2 1074

def signedUnits (negative : Bool) (m : Magnitude) : Int :=
  if negative then -(m.units : Int) else m.units

def neg : Double → Double
  | nan => nan
  | inf s => inf (!s)
  | finite s m => finite (!s) m

def add : Double → Double → Double
  | nan, _ => nan
  | _, nan => nan
  | inf s, inf t => if s = t then inf s else nan
  | inf s, finite .. => inf s
  | finite .., inf t => inf t
  | finite s m, finite t n =>
    let total := signedUnits s m + signedUnits t n
    if total = 0 then zero (s && t) else ofUnits (total < 0) total.natAbs 1

def sub (x y : Double) : Double := add x (neg y)

def mul : Double → Double → Double
  | nan, _ => nan
  | _, nan => nan
  | inf s, inf t => inf (s ^^ t)
  | inf s, finite t n => if n.units = 0 then nan else inf (s ^^ t)
  | finite s m, inf t => if m.units = 0 then nan else inf (s ^^ t)
  | finite s m, finite t n => ofUnits (s ^^ t) (m.units * n.units) one

/-- A number over a zero is an infinity, a zero over a zero no number. -/
def div : Double → Double → Double
  | nan, _ => nan
  | _, nan => nan
  | inf _, inf _ => nan
  | inf s, finite t _ => inf (s ^^ t)
  | finite s _, inf t => zero (s ^^ t)
  | finite s m, finite t n =>
    if n.units = 0 then (if m.units = 0 then nan else inf (s ^^ t))
    else ofUnits (s ^^ t) (m.units * one) n.units

/-- The remainder with the sign of the dividend. -/
def rem : Double → Double → Double
  | nan, _ => nan
  | _, nan => nan
  | inf _, _ => nan
  | finite s m, inf _ => finite s m
  | finite s m, finite _ n => if n.units = 0 then nan else ofUnits s (m.units % n.units) 1

def lt : Double → Double → Bool
  | nan, _ => false
  | _, nan => false
  | inf s, inf t => s && !t
  | inf s, finite .. => s
  | finite .., inf t => !t
  | finite s m, finite t n => signedUnits s m < signedUnits t n

def gt (x y : Double) : Bool := lt y x

/-- The number `digits * 10 ^ exponent`. Exponents far out of range are settled
without the power. -/
def ofDecimal (negative : Bool) (digits : Nat) (exponent : Int) : Double :=
  if digits = 0 then zero negative
  else if 310 < exponent then inf negative
  else if exponent + (digits.log2 : Int) < -1100 then zero negative
  else if 0 ≤ exponent then ofUnits negative (digits * Nat.pow 10 exponent.toNat * one) 1
  else ofUnits negative (digits * one) (Nat.pow 10 (-exponent).toNat)

def signBit (negative : Bool) : Nat := if negative then 0x8000000000000000 else 0

/-- The 64-bit pattern of the interchange format; the one of NaN is the quiet one. -/
def bits : Double → Nat
  | nan => 0x7FF8000000000000
  | inf s => signBit s + 0x7FF0000000000000
  | finite s m =>
    signBit s +
      if m.units < leadingBit then m.units
      else (m.units.log2 - 51) * leadingBit + (m.units / spacing m.units - leadingBit)

end Double

example : (Double.ofDecimal false 1 (-1)).bits = 0x3FB999999999999A := by decide +kernel
example : (Double.ofDecimal false 5 (-324)).bits = 1 := by decide +kernel
example : (Double.ofDecimal true 17 307).bits = 0xFFEE42D130773B76 := by decide +kernel

end TextExpr
