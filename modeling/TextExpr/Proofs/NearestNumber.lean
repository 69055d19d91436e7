import TextExpr.Proofs.StableRounding

/-!
# The number nearest to a rational

A quotient and a decimal are rounded to the number that is nearest to them. Of two numbers that
are as near it is the one with an even significand. From half a step above the largest number on
a rational is rounded to an infinity.
-/
namespace TextExpr

open Double (one)

namespace Magnitude

variable {num den u k : Nat}

/-- The leading bits of a magnitude, as a whole number. -/
def significand (m : Magnitude) : Nat := m.units / spacing m.units

/-- An even count of steps is still even when the steps are those of the number it makes. -/
theorem even_div_spacing (few : k ≤ 2 * leadingBit) (even : k % 2 = 0) (n : Nat) :
    k * spacing n / spacing (k * spacing n) % 2 = 0 := by
  have bound : 2 * leadingBit = 2 ^ 53 := rfl
  rw [bound] at few
  rcases Nat.eq_zero_or_pos k with rfl | positive
  · simp
  simp only [spacing, Nat.pow_eq]
  generalize n.log2 - 52 = j
  have nonzero : k * 2 ^ j ≠ 0 := (Nat.mul_pos positive (Nat.two_pow_pos j)).ne'
  rcases Nat.lt_or_eq_of_le few with less | rfl
  · have log : (k * 2 ^ j).log2 < 53 + j := by
      rw [Nat.log2_lt nonzero, Nat.pow_add]
      exact Nat.mul_lt_mul_of_pos_right less (Nat.two_pow_pos j)
    have finer : 2 ^ ((k * 2 ^ j).log2 - 52) ∣ 2 ^ j := Nat.pow_dvd_pow 2 (by omega)
    rw [Nat.mul_div_assoc k finer, Nat.mul_mod, even]
    simp
  · have log : (2 ^ 53 * 2 ^ j).log2 - 52 = j + 1 := by
      rw [← Nat.pow_add, Nat.log2_two_pow]
      omega
    have split : 2 ^ 53 * 2 ^ j = 2 ^ 52 * 2 ^ (j + 1) := by
      rw [← Nat.pow_add, ← Nat.pow_add]
      congr 1
      omega
    rw [log, split, Nat.mul_div_cancel _ (Nat.two_pow_pos _)]
    rfl

/-- Where another number is as near to a quotient, the rounded one is even. -/
theorem even_of_tie (positive : 0 < den) (held : spacing u ∣ u) (other : u ≠ nearest num den)
    (tie : |(nearest num den : ℚ) - num / den| = |(u : ℚ) - num / den|) :
    nearest num den / spacing (nearest num den) % 2 = 0 := by
  by_cases on : spacing (num / den) ∣ u
  · obtain ⟨k, grid⟩ := on
    rw [grid, Nat.mul_comm] at other tie
    have even : divEven num (den * spacing (num / den)) % 2 = 0 := by
      apply (isNearestMultiple_nearest num positive).even k
      · intro same
        rw [nearest, Int.ofNat_inj.mp same] at other
        exact other rfl
      · exact_mod_cast tie
    exact even_div_spacing (divEven_spacing_le num den) even _
  · exact absurd tie (nearest_lt_of_not_dvd positive held on).ne

/-- The largest number is odd, and a whole step below the first power of two out of range. -/
theorem exists_largest : ∃ largest half : Nat, 0 < half ∧ overflow = largest + 2 * half ∧
    largest + half + 2 ^ 970 * one = 2 ^ 1024 * one ∧ spacing overflow ∣ overflow ∧
    spacing largest ∣ largest ∧ largest / spacing largest % 2 = 1 ∧
    ∀ m : Magnitude, m.units ≤ largest := by
  obtain ⟨j, power, step⟩ : ∃ j, overflow = 2 ^ (j + 53) ∧ 2 * (2 ^ 970 * one) = 2 ^ j :=
    ⟨2045, by decide +kernel, by decide +kernel⟩
  refine ⟨overflow - 2 * (2 ^ 970 * one), 2 ^ 970 * one, by decide +kernel, by decide +kernel,
    by decide +kernel, by decide +kernel, by decide +kernel, by decide +kernel, ?_⟩
  intro m
  rw [step]
  exact Nat.le_sub_of_add_le (units_add_step_le power m)

/-- A quotient is out of range from half a step above the largest number on. -/
theorem nearest_lt_overflow_iff (num : Nat) (positive : 0 < den) :
    nearest num den < overflow ↔ (num / den : ℚ) < (2 ^ 1024 - 2 ^ 970) * one := by
  obtain ⟨largest, half, some_half, top, middle, heldTop, held, odd, most⟩ := exists_largest
  have half_pos : (0 : ℚ) < half := Nat.cast_pos.mpr some_half
  have top' : (overflow : ℚ) = largest + 2 * half := by exact_mod_cast top
  have bound : ((2 : ℚ) ^ 1024 - 2 ^ 970) * one = largest + half := by
    have middle' := congrArg (Nat.cast : Nat → ℚ) middle
    rw [Nat.cast_add, Nat.cast_add, Nat.cast_mul, Nat.cast_mul, Nat.cast_pow, Nat.cast_pow,
      Nat.cast_ofNat] at middle'
    rw [sub_mul, ← middle', add_sub_cancel_right]
  have nearTop := nearest_le num positive heldTop
  have nearLargest := nearest_le num positive held
  rw [bound]
  rw [top'] at nearTop
  constructor
  · intro inside
    by_contra out
    have below : (nearest num den : ℚ) ≤ largest :=
      Nat.cast_le.mpr (most ⟨_, nearest_dvd num den, inside⟩)
    have above : |(nearest num den : ℚ) - num / den| = num / den - nearest num den := by
      rw [abs_sub_comm, abs_of_nonneg (by linarith)]
    rw [above] at nearTop
    rcases abs_cases ((largest : ℚ) + 2 * half - num / den) with ⟨size, _⟩ | ⟨size, _⟩
    -- the quotient is then halfway, where the largest number would have to be even
    · have same : (nearest num den : ℚ) = largest := by linarith
      have same' : nearest num den = largest := by exact_mod_cast same
      have other : overflow ≠ nearest num den := by omega
      have tie : |(nearest num den : ℚ) - num / den| = |(overflow : ℚ) - num / den| := by
        rw [above, top', size]
        linarith
      have even := even_of_tie positive heldTop other tie
      rw [same', odd] at even
      cases even
    · linarith
  · intro inside
    by_contra out
    have reached : (overflow : ℚ) ≤ nearest num den := Nat.cast_le.mpr (Nat.le_of_not_lt out)
    have above : |(nearest num den : ℚ) - num / den| = nearest num den - num / den :=
      abs_of_nonneg (by linarith)
    rw [above] at nearLargest
    rcases abs_cases ((largest : ℚ) - num / den) with ⟨size, _⟩ | ⟨size, _⟩ <;> linarith

/-- No number with a sign is nearer to a quotient, and one that is as near makes it even. -/
theorem nearest_le_signed (num : Nat) (positive : 0 < den) {z : ℤ}
    (held : spacing z.natAbs ∣ z.natAbs) :
    |(nearest num den : ℚ) - num / den| ≤ |(z : ℚ) - num / den| ∧
    (z ≠ nearest num den → |(nearest num den : ℚ) - num / den| = |(z : ℚ) - num / den| →
      nearest num den / spacing (nearest num den) % 2 = 0) := by
  rcases Int.lt_or_le z 0 with below | above
  · -- zero is nearer than what lies on its other side
    have quotient : (0 : ℚ) ≤ num / den := by positivity
    have below' : (z : ℚ) < 0 := Int.cast_lt_zero.mpr below
    have near := nearest_le num positive (u := 0) (Nat.dvd_zero _)
    rw [Nat.cast_zero, zero_sub, abs_neg, abs_of_nonneg quotient] at near
    have far : |(z : ℚ) - num / den| = num / den - z := by
      rw [abs_of_neg (by linarith)]
      ring
    rw [far]
    constructor
    · linarith
    · intro _ tie
      linarith
  · obtain ⟨u, rfl⟩ := Int.eq_ofNat_of_zero_le above
    constructor
    · exact_mod_cast nearest_le num positive held
    · intro other tie
      apply even_of_tie positive held
      · exact fun same => other (congrArg Nat.cast same)
      · exact_mod_cast tie

end Magnitude

namespace Double

/-- A rational with a sign put before it. -/
def signedRat (s : Bool) (r : ℚ) : ℚ := if s then -r else r

/-- The number is nearest to the rational. It is an infinity from half a step above the largest
number on, and else no other number is nearer, and none as near unless its significand is even. -/
inductive IsNearest (q : ℚ) : Double → Prop where
  | inf {s : Bool} (out : 2 ^ 1024 - 2 ^ 970 ≤ |q|) (sign : s = decide (q < 0)) :
      IsNearest q (.inf s)
  | finite {s : Bool} {m : Magnitude} {v : ℚ} (inside : |q| < 2 ^ 1024 - 2 ^ 970)
      (exact : (Double.finite s m).toRat? = some v)
      (nearest : ∀ (x : Double) (w : ℚ), x.toRat? = some w → |v - q| ≤ |w - q|)
      (even : ∀ (x : Double) (w : ℚ), x.toRat? = some w → w ≠ v → |v - q| = |w - q| →
        m.significand % 2 = 0) : IsNearest q (.finite s m)

variable {s : Bool} {x : Double} {w r : ℚ} {num den : Nat}

theorem abs_signedRat (s : Bool) (positive : 0 ≤ r) : |signedRat s r| = r := by
  cases s <;> simp [signedRat, abs_of_nonneg positive]

theorem abs_signedRat_sub (s : Bool) (a b : ℚ) :
    |signedRat s (a / one) - signedRat s (b / one)| = |a - b| / one := by
  have unit_pos : (0 : ℚ) < one := Nat.cast_pos.mpr one_pos
  have difference : |a / one - b / one| = |a - b| / one := by
    rw [← sub_div, abs_div, abs_of_pos unit_pos]
  cases s with
  | false => exact difference
  | true => rw [← difference, abs_sub_comm (a / one), signedRat, signedRat, if_pos rfl, if_pos rfl,
      neg_sub_neg]

/-- What a finite number stands for is a whole number of units, as far as the sign goes that is
put before it. -/
theorem exists_units (s : Bool) (exact : x.toRat? = some w) :
    ∃ z : ℤ, spacing z.natAbs ∣ z.natAbs ∧ w = signedRat s (z / one) := by
  cases x with
  | nan => cases exact
  | inf t => cases exact
  | finite t m =>
    have held := m.representable.1
    have value : signedRat t m.toRat = w := Option.some.inj exact
    by_cases same : t = s
    · refine ⟨m.units, held, ?_⟩
      rw [← value, same, Magnitude.toRat]
      rfl
    · refine ⟨-m.units, by rwa [Int.natAbs_neg], ?_⟩
      rw [← value, Magnitude.toRat, Int.cast_neg, neg_div, Int.cast_natCast]
      generalize (m.units / one : ℚ) = r
      cases s <;> cases t <;> simp [signedRat] at same ⊢

theorem quotient_nonneg (num den : Nat) : (0 : ℚ) ≤ num / den / one :=
  div_nonneg (div_nonneg num.cast_nonneg den.cast_nonneg) one.cast_nonneg

/-- What is in range is told from the size of the exact quotient. -/
theorem nearest_lt_overflow_iff_abs (s : Bool) (num : Nat) (positive : 0 < den) :
    Magnitude.nearest num den < overflow ↔
      |signedRat s (num / den / one)| < 2 ^ 1024 - 2 ^ 970 := by
  have unit_pos : (0 : ℚ) < one := Nat.cast_pos.mpr one_pos
  rw [Magnitude.nearest_lt_overflow_iff num positive, abs_signedRat s (quotient_nonneg num den),
    div_lt_iff₀ unit_pos]

theorem isNearest_of_inside (s : Bool) (positive : 0 < den)
    (inside : Magnitude.nearest num den < overflow) :
    (ofUnits s num den).IsNearest (signedRat s (num / den / one)) := by
  have unit_pos : (0 : ℚ) < one := Nat.cast_pos.mpr one_pos
  obtain ⟨m, made, units⟩ := Magnitude.exists_ofUnits s inside
  have value : (finite s m).toRat? =
      some (signedRat s ((Magnitude.nearest num den : ℚ) / one)) := by
    rw [← units]
    rfl
  rw [made]
  refine .finite ((nearest_lt_overflow_iff_abs s num positive).mp inside) value ?_ ?_
  · intro x w exact
    obtain ⟨z, held, rfl⟩ := exists_units s exact
    obtain ⟨near, -⟩ := Magnitude.nearest_le_signed num positive held
    rw [abs_signedRat_sub, abs_signedRat_sub]
    exact div_le_div_of_nonneg_right near unit_pos.le
  · intro x w exact other tie
    obtain ⟨z, held, rfl⟩ := exists_units s exact
    obtain ⟨-, even⟩ := Magnitude.nearest_le_signed num positive held
    rw [abs_signedRat_sub, abs_signedRat_sub] at tie
    rw [Magnitude.significand, units]
    apply even
    · rintro rfl
      exact other rfl
    · exact (div_left_inj' unit_pos.ne').mp tie

theorem isNearest_of_outside (s : Bool) (positive : 0 < den)
    (outside : ¬ Magnitude.nearest num den < overflow) :
    (ofUnits s num den).IsNearest (signedRat s (num / den / one)) := by
  have far := not_lt.mp (mt (nearest_lt_overflow_iff_abs s num positive).mpr outside)
  have some_size : (0 : ℚ) < num / den / one := by
    rw [abs_signedRat s (quotient_nonneg num den)] at far
    refine lt_of_lt_of_le ?_ far
    exact sub_pos.mpr (pow_lt_pow_right₀ (by norm_num) (by norm_num))
  rw [ofUnits, dif_neg outside]
  refine .inf far ?_
  cases s with
  | false => exact (decide_eq_false (not_lt.mpr some_size.le)).symm
  | true => exact (decide_eq_true (neg_neg_of_pos some_size)).symm

/-- What is rounded is nearest to the exact quotient. -/
theorem isNearest_ofUnits (s : Bool) (num : Nat) (positive : 0 < den) :
    (ofUnits s num den).IsNearest (signedRat s (num / den / one)) := by
  by_cases inside : Magnitude.nearest num den < overflow
  · exact isNearest_of_inside s positive inside
  · exact isNearest_of_outside s positive inside

/-- A rational that a number stands for is not rounded. -/
theorem IsNearest.toRat?_eq {q : ℚ} {y : Double} (near : x.IsNearest q)
    (exact : y.toRat? = some q) : x.toRat? = some q := by
  cases near with
  | @finite s m v inside value nearest =>
    have least : |v - q| ≤ |q - q| := nearest y q exact
    rw [sub_self, abs_zero, abs_nonpos_iff, sub_eq_zero] at least
    rw [value, least]
  | inf out =>
    cases y with
    | nan => cases exact
    | inf t => cases exact
    | finite t m =>
      have value : signedRat t m.toRat = q := Option.some.inj exact
      have range := nearest_lt_overflow_iff_abs t m.units Nat.one_pos
      rw [Magnitude.nearest_units, Nat.cast_one, div_one] at range
      have inside := range.mp m.representable.2
      rw [← value] at out
      exact absurd inside (not_lt.mpr out)

/-- A decimal is rounded to the number that is nearest to it. -/
theorem isNearest_ofDecimal (s : Bool) (digits : Nat) (exponent : ℤ) :
    (ofDecimal s digits exponent).IsNearest (signedRat s (digits * 10 ^ exponent)) := by
  have unit_pos : (0 : ℚ) < one := Nat.cast_pos.mpr one_pos
  have parts : exponent = exponent.toNat - (-exponent).toNat := by omega
  have exact : (digits * 10 ^ exponent : ℚ) =
      (digits * Nat.pow 10 exponent.toNat * one : Nat) / (Nat.pow 10 (-exponent).toNat : Nat) /
        one := by
    have cast : ∀ k, ((Nat.pow 10 k : Nat) : ℚ) = 10 ^ k := fun k => Nat.cast_pow 10 k
    conv_lhs => rw [parts, zpow_sub₀ (by norm_num), zpow_natCast, zpow_natCast]
    rw [Nat.cast_mul, Nat.cast_mul, cast, cast, div_right_comm,
      mul_div_cancel_right₀ _ unit_pos.ne', mul_div_assoc]
  have positive : 0 < Nat.pow 10 (-exponent).toNat := Nat.pow_pos (by decide)
  rw [ofDecimal_eq_ofUnits, exact]
  exact isNearest_ofUnits s _ positive

end Double

end TextExpr
