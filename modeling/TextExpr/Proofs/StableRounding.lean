import Mathlib.Data.Nat.Cast.Order.Field
import TextExpr.Proofs.FixedPlaces

/-!
# Rounding a rounded number

A quotient is rounded to a number that is nearest to it among all numbers there are, whatever
their spacing. So what a rounded text is read as is no farther from the multiple in the text than
the number that was rounded. The multiple is then nearest to what is read as well, and rounding
to the same places once more gives the same text.
-/
namespace TextExpr

namespace IsNearestMultiple

variable {step r r' : ℚ} {n n' : Nat}

/-- A nearest multiple is at most half a step away, and only an even one is half a step away. -/
theorem half (positive : 0 < step) (near : IsNearestMultiple step r n) :
    |n * step - r| ≤ step / 2 ∧ (|n * step - r| = step / 2 → n % 2 = 0) := by
  have above : |((n + 1 : ℤ) : ℚ) * step - r| = |n * step - r + step| := by
    congr 1
    push_cast
    ring
  have below : |((n - 1 : ℤ) : ℚ) * step - r| = |n * step - r - step| := by
    congr 1
    push_cast
    ring
  have up := near.nearest (n + 1)
  have down := near.nearest (n - 1)
  have even_up := near.even (n + 1) (by omega)
  have even_down := near.even (n - 1) (by omega)
  rw [above] at up even_up
  rw [below] at down even_down
  generalize (n : ℚ) * step - r = distance at *
  constructor
  · rcases abs_cases distance with ⟨size, sign⟩ | ⟨size, sign⟩
    · rcases abs_cases (distance - step) with ⟨size', _⟩ | ⟨size', _⟩ <;> linarith
    · rcases abs_cases (distance + step) with ⟨size', _⟩ | ⟨size', _⟩ <;> linarith
  · intro equal
    rcases abs_cases distance with ⟨size, _⟩ | ⟨size, _⟩
    · apply even_down
      rw [equal, abs_of_neg (by linarith)]
      linarith
    · apply even_up
      rw [equal, abs_of_pos (by linarith)]
      linarith

/-- What is no farther from a nearest multiple has the same nearest multiple. -/
theorem of_closer (positive : 0 < step) (near : IsNearestMultiple step r n)
    (closer : |n * step - r'| ≤ |n * step - r|) : IsNearestMultiple step r' n := by
  obtain ⟨half, even⟩ := near.half positive
  apply isNearestMultiple_of_half positive (closer.trans half)
  intro equal
  rw [equal] at closer
  exact even (le_antisymm half closer)

/-- Of two nearest multiples both would be even, and even ones are two steps apart. -/
theorem unique (positive : 0 < step) (near : IsNearestMultiple step r n)
    (near' : IsNearestMultiple step r n') : n = n' := by
  by_contra other
  have tie : |n * step - r| = |n' * step - r| := by
    apply le_antisymm
    · exact_mod_cast near.nearest n'
    · exact_mod_cast near'.nearest n
  have even : n % 2 = 0 := near.even n' (by omega) (by exact_mod_cast tie)
  have even' : n' % 2 = 0 := near'.even n (by omega) (by exact_mod_cast tie.symm)
  have apart : (2 : ℚ) ≤ |(n : ℚ) - n'| := by
    have whole : (2 : ℤ) ≤ |(n : ℤ) - n'| := by
      rw [le_abs]
      omega
    exact_mod_cast whole
  have steps : 2 * step ≤ |n * step - n' * step| := by
    rw [← sub_mul, abs_mul, abs_of_pos positive]
    exact mul_le_mul_of_nonneg_right apart positive.le
  have triangle : |n * step - n' * step| ≤ |n * step - r| + |n' * step - r| := by
    rw [abs_sub_comm (n' * step) r]
    exact abs_sub_le _ _ _
  have half := (near.half positive).1
  have half' := (near'.half positive).1
  linarith

end IsNearestMultiple

namespace Magnitude

open Double (one)

variable {num den u : Nat}

theorem spacing_dvd_spacing {n n' : Nat} (larger : n.log2 ≤ n'.log2) :
    spacing n ∣ spacing n' :=
  Nat.pow_dvd_pow 2 (Nat.sub_le_sub_right larger 52)

/-- Numbers off the grid of a magnitude lie below the power of two where the magnitude begins,
and that power is on the grid. -/
theorem below_of_not_dvd {n : Nat} (held : spacing u ∣ u) (off : ¬ spacing n ∣ u) :
    ∃ k, u < k * spacing n ∧ k * spacing n ≤ n := by
  have smaller : u.log2 < n.log2 := by
    by_contra larger
    exact off (Nat.dvd_trans (spacing_dvd_spacing (by omega)) held)
  have far : 52 < n.log2 := by
    by_contra near
    have single : spacing n = 1 := by
      have exponent : n.log2 - 52 = 0 := by omega
      rw [spacing, exponent]
    exact off (single ▸ Nat.one_dvd u)
  have lead : Nat.pow 2 52 * spacing n = Nat.pow 2 n.log2 := by
    simp only [spacing, Nat.pow_eq, ← Nat.pow_add]
    congr 1
    omega
  have nonzero : n ≠ 0 := by
    rintro rfl
    rw [Nat.log2_zero] at far
    omega
  refine ⟨Nat.pow 2 52, ?_, ?_⟩
  · rw [lead]
    exact Nat.lt_of_lt_of_le Nat.lt_log2_self (Nat.pow_le_pow_right Nat.two_pos smaller)
  · rw [lead]
    exact Nat.log2_self_le nonzero

theorem isNearestMultiple_nearest (num : Nat) (positive : 0 < den) :
    IsNearestMultiple (spacing (num / den)) (num / den)
      (divEven num (den * spacing (num / den))) := by
  have some_step := spacing_pos (num / den)
  generalize spacing (num / den) = step at *
  have den_ne : (den : ℚ) ≠ 0 := Nat.cast_ne_zero.mpr positive.ne'
  have step_pos : (0 : ℚ) < step := Nat.cast_pos.mpr some_step
  have near := isNearestMultiple_divEven step_pos (Nat.mul_pos positive some_step) num
  have exact : (num : ℚ) / ((den * step : Nat) : ℚ) * step = num / den := by
    rw [Nat.cast_mul]
    field_simp
  rwa [exact] at near

/-- A multiple of the spacing at a quotient is no nearer to it than the rounded quotient. -/
theorem nearest_le_multiple (positive : 0 < den) (k : Nat) :
    |(nearest num den : ℚ) - num / den| ≤ |(k * spacing (num / den) : Nat) - (num / den : ℚ)| := by
  rw [nearest]
  exact_mod_cast (isNearestMultiple_nearest num positive).nearest k

/-- A number off the grid at a quotient is farther from it than the rounded quotient. -/
theorem nearest_lt_of_not_dvd (positive : 0 < den) (held : spacing u ∣ u)
    (off : ¬ spacing (num / den) ∣ u) :
    |(nearest num den : ℚ) - num / den| < |(u : ℚ) - num / den| := by
  obtain ⟨k, below, reached⟩ := below_of_not_dvd held off
  have floor : ((num / den : Nat) : ℚ) ≤ num / den := Nat.cast_div_le
  have below' : (u : ℚ) < (k * spacing (num / den) : Nat) := Nat.cast_lt.mpr below
  have reached' : ((k * spacing (num / den) : Nat) : ℚ) ≤ (num / den : Nat) :=
    Nat.cast_le.mpr reached
  refine (nearest_le_multiple positive k).trans_lt ?_
  rw [abs_of_nonpos (by linarith), abs_of_nonpos (by linarith)]
  linarith

/-- No number is nearer to a quotient than the one that the quotient is rounded to. -/
theorem nearest_le (num : Nat) (positive : 0 < den) (held : spacing u ∣ u) :
    |(nearest num den : ℚ) - num / den| ≤ |(u : ℚ) - num / den| := by
  by_cases on : spacing (num / den) ∣ u
  · obtain ⟨k, grid⟩ := on
    rw [grid, Nat.mul_comm]
    exact nearest_le_multiple positive k
  · exact (nearest_lt_of_not_dvd positive held on).le

/-- The largest number is a whole step below what is out of range. -/
theorem units_add_step_le {j : Nat} (power : overflow = 2 ^ (j + 53)) (m : Magnitude) :
    m.units + 2 ^ j ≤ overflow := by
  obtain ⟨held, inside⟩ := m.representable
  rw [power] at inside ⊢
  by_cases top : j + 52 ≤ m.units.log2
  · have on : 2 ^ j ∣ m.units := Nat.dvd_trans (Nat.pow_dvd_pow 2 (by omega)) held
    obtain ⟨k, units⟩ := on
    rw [units, Nat.pow_add] at inside
    have count : k < 2 ^ 53 := Nat.lt_of_mul_lt_mul_left inside
    calc m.units + 2 ^ j = 2 ^ j * (k + 1) := by rw [units, Nat.mul_succ]
      _ ≤ 2 ^ j * 2 ^ 53 := Nat.mul_le_mul_left _ count
      _ = 2 ^ (j + 53) := (Nat.pow_add 2 j 53).symm
  · have small : m.units < 2 ^ (j + 52) :=
      Nat.lt_of_lt_of_le Nat.lt_log2_self (Nat.pow_le_pow_right Nat.two_pos (by omega))
    have less : 2 ^ j ≤ 2 ^ (j + 52) := Nat.pow_le_pow_right Nat.two_pos (by omega)
    calc m.units + 2 ^ j ≤ 2 ^ (j + 52) * 2 := by omega
      _ = 2 ^ (j + 53) := (Nat.pow_succ (n := 2) (m := j + 52)).symm

theorem units_add_le (m : Magnitude) : m.units + 2 * one ≤ overflow := by
  obtain ⟨j, power, gap⟩ : ∃ j, overflow = 2 ^ (j + 53) ∧ 2 * one ≤ 2 ^ j :=
    ⟨2045, by decide +kernel, by decide +kernel⟩
  exact (Nat.add_le_add_left gap _).trans (units_add_step_le power m)

/-- A quotient that is at most one away from a number is in range. -/
theorem nearest_lt_overflow (positive : 0 < den) (m : Magnitude)
    (close : |(m.units : ℚ) - num / den| ≤ one / 2) : nearest num den < overflow := by
  have unit_pos : (0 : ℚ) < one := Nat.cast_pos.mpr one_pos
  have gap : (m.units + 2 * one : ℚ) ≤ overflow := by exact_mod_cast m.units_add_le
  have near := nearest_le num positive m.representable.1
  have above := (abs_le.mp (near.trans close)).2
  have below := (abs_le.mp close).1
  have inside : (nearest num den : ℚ) < overflow := by linarith
  exact_mod_cast inside

theorem exists_ofUnits (s : Bool) (inside : nearest num den < overflow) :
    ∃ m : Magnitude, Double.ofUnits s num den = .finite s m ∧ m.units = nearest num den :=
  ⟨⟨_, nearest_dvd num den, inside⟩, dif_pos inside, rfl⟩

/-- Distances are the same when they are counted in units. -/
theorem abs_units_sub (m : Magnitude) (c : ℚ) :
    |(m.units : ℚ) - c * one| = |c - m.toRat| * one := by
  have unit_pos : (0 : ℚ) < one := Nat.cast_pos.mpr one_pos
  have difference : (m.units : ℚ) - c * one = (m.toRat - c) * one := by
    rw [Magnitude.toRat, sub_mul, div_mul_cancel₀ _ unit_pos.ne']
  rw [difference, abs_mul, abs_of_pos unit_pos, abs_sub_comm]

/-- A rounded number is read as a number that is no farther from the multiple than the number
that was rounded. -/
theorem exists_reread (s : Bool) (m : Magnitude) (places : Nat) :
    ∃ m' : Magnitude, Double.ofDecimal s (m.scaled places) (-places) = .finite s m' ∧
      |(m.scaled places : ℚ) * (1 / 10 ^ places) - m'.toRat| ≤
        |(m.scaled places : ℚ) * (1 / 10 ^ places) - m.toRat| := by
  have rounded := isNearestMultiple_scaled m places
  generalize m.scaled places = n at *
  have unit_pos : (0 : ℚ) < one := Nat.cast_pos.mpr one_pos
  have den_pos : 0 < Nat.pow 10 places := Nat.pow_pos (by decide)
  have read : Double.ofDecimal s n (-places) = .ofUnits s (n * one) (Nat.pow 10 places) := by
    have up : (-(places : ℤ)).toNat = 0 := by omega
    have down : (- -(places : ℤ)).toNat = places := by omega
    have unscaled : Nat.pow 10 0 = 1 := rfl
    rw [Double.ofDecimal_eq_ofUnits, up, down, unscaled, Nat.mul_one]
  have quotient :
      ((n * one : Nat) : ℚ) / (Nat.pow 10 places : Nat) = n * (1 / 10 ^ places) * one := by
    have cast : ((Nat.pow 10 places : Nat) : ℚ) = 10 ^ places := Nat.cast_pow _ _
    rw [Nat.cast_mul, cast]
    ring
  have close : |(m.units : ℚ) - (n * one : Nat) / (Nat.pow 10 places : Nat)| ≤ one / 2 := by
    have step_le : (1 : ℚ) / 10 ^ places ≤ 1 := by
      rw [div_le_one (by positivity)]
      exact one_le_pow₀ (by decide)
    have half := (rounded.half (by positivity)).1
    rw [quotient, abs_units_sub]
    calc |(n : ℚ) * (1 / 10 ^ places) - m.toRat| * one ≤ 1 / 2 * one :=
          mul_le_mul_of_nonneg_right (by linarith) unit_pos.le
      _ = one / 2 := by ring
  obtain ⟨m', made, units⟩ := exists_ofUnits s (nearest_lt_overflow den_pos m close)
  refine ⟨m', read.trans made, ?_⟩
  have near := nearest_le (n * one) den_pos m.representable.1
  rw [quotient, ← units, abs_units_sub m', abs_units_sub m] at near
  exact le_of_mul_le_mul_right near unit_pos

/-- The multiple that is read again is rounded to itself. -/
theorem scaled_reread {s : Bool} {m m' : Magnitude} {places : Nat}
    (read : Double.ofDecimal s (m.scaled places) (-places) = .finite s m') :
    m'.scaled places = m.scaled places := by
  obtain ⟨m'', same, closer⟩ := exists_reread s m places
  cases same.symm.trans read
  have step_pos : (0 : ℚ) < 1 / 10 ^ places := by positivity
  have kept := (isNearestMultiple_scaled m places).of_closer step_pos closer
  exact (isNearestMultiple_scaled m' places).unique step_pos kept

end Magnitude

namespace Double

/-- What a rounded text is read as has the same text when it is rounded to the same places. -/
theorem exists_read?_fixedText (x : Double) (places : Nat) :
    ∃ y, read? (x.fixedText places) = some y ∧ y.fixedText places = x.fixedText places := by
  cases x with
  | nan => exact ⟨nan, read?_plainText nan, rfl⟩
  | inf s => exact ⟨inf s, read?_plainText (inf s), rfl⟩
  | finite s m =>
    obtain ⟨whole, fraction, spells⟩ := spells_fixedDigits m places
    obtain ⟨m', read, _⟩ := m.exists_reread s places
    refine ⟨finite s m', ?_, ?_⟩
    · rw [fixedText, read?_of_spells spells, read]
    · rw [fixedText, fixedText, fixedDigits, fixedDigits, Magnitude.scaled_reread read]

end Double

theorem round_of_read {number places : Value} {x : Double} {d : ℤ}
    (reads : number.asDouble = .ok x) (count : places.asI32 = .ok d) (source : Option Source) :
    callFunction Builtin.roundName [number, places] source =
      ⟨[], .ok (.ofText (x.fixedText d.toNat))⟩ := by
  have rounded : Builtin.round [number, places] = .ok (.ofText (x.fixedText d.toNat)) := by
    simp only [Builtin.round, reads, count]
  exact congrArg (Run.mk []) rounded

/-- Rounding is idempotent: the text of a rounded number is a number text, and rounded to as many
places again, wherever the text and the count stand, it is the same text. This is so of every
number, finite or not, and of every count. -/
theorem callFunction_round_again {number places : Value} {x : Double} {d : ℤ}
    (reads : number.asDouble = .ok x) (count : places.asI32 = .ok d) (source : Option Source) :
    ∃ t, callFunction Builtin.roundName [number, places] source = ⟨[], .ok (.ofText t)⟩ ∧
      ∀ s again, again.asI32 = .ok d →
        callFunction Builtin.roundName [⟨t, s⟩, again] source = ⟨[], .ok (.ofText t)⟩ := by
  obtain ⟨y, read, same⟩ := x.exists_read?_fixedText d.toNat
  refine ⟨x.fixedText d.toNat, round_of_read reads count source, ?_⟩
  intro s again count'
  have reads' : (⟨x.fixedText d.toNat, s⟩ : Value).asDouble = .ok y :=
    Value.asDouble_eq_ok_iff.mpr read
  rw [round_of_read reads' count' source, same]

/-- The number nearest to 0.15 lies below it and is rounded down. The number that the rounded text
is read as lies on the other side of 0.1. -/
theorem callFunction_round_again_tenth :
    let once : Value := ⟨"-0.1", some ⟨0, 14, 0⟩⟩
    callFunction Builtin.roundName [⟨"-0.15", none⟩, ⟨"+01", none⟩] none =
        ⟨[], .ok (.ofText once.text)⟩ ∧
      callFunction Builtin.roundName [once, ⟨"1", none⟩] none = ⟨[], .ok (.ofText once.text)⟩ := by
  intro once
  obtain ⟨x, reads⟩ : ∃ x, (⟨"-0.15", none⟩ : Value).asDouble = .ok x :=
    ⟨.ofDecimal true 15 (-2), Value.asDouble_eq_ok_iff.mpr (by decide +kernel)⟩
  have count : (⟨"+01", none⟩ : Value).asI32 = .ok 1 := by rfl
  have count' : (⟨"1", none⟩ : Value).asI32 = .ok 1 := by rfl
  have text : (callFunction Builtin.roundName [⟨"-0.15", none⟩, ⟨"+01", none⟩] none).outcome =
      .ok ⟨once.text, none⟩ := by decide +kernel
  obtain ⟨t, ended, again⟩ := callFunction_round_again reads count none
  have made := (congrArg Run.outcome ended).symm.trans text
  have same : t = once.text := congrArg Value.text (Except.ok.inj made)
  subst same
  exact ⟨ended, again _ _ count'⟩

end TextExpr
