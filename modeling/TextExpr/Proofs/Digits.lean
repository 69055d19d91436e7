import Mathlib.Data.List.Basic
import Mathlib.Data.List.Induction
import Mathlib.Data.List.TakeDrop
import Mathlib.Tactic.Ring
import TextExpr.Double.Decimal

/-!
# Digits and the numbers they spell

A run of digits is read up to the first point that is none. The digits of a number spell that
number, and but for the number zero they begin with no zero.
-/
namespace TextExpr

variable {t u : Text} {n : Nat}

section Runs

variable {P : Point → Bool}

/-- The text does not begin with a point of the class. -/
def NotFirst (P : Point → Bool) (t : Text) : Prop := ∀ p ∈ t.head?, P p = false

theorem notFirst_cons {p : Point} (other : P p = false) : NotFirst P (p :: t) := by
  intro q first
  cases first
  exact other

theorem span_append_of_run (run : ∀ p ∈ t, P p = true) (next : NotFirst P u) :
    (t ++ u).span P = (t, u) := by
  rw [List.span_eq_takeWhile_dropWhile, List.takeWhile_append_of_pos run,
    List.dropWhile_append_of_pos run]
  cases u with
  | nil => simp
  | cons p u =>
    have stops : P p = false := next p rfl
    simp [stops]

/-- Two runs of a class are the same where they begin the same text. -/
theorem append_inj_of_run {left rest : Text} (run : ∀ p ∈ t, P p = true)
    (run' : ∀ p ∈ u, P p = true) (next : NotFirst P left) (next' : NotFirst P rest)
    (same : t ++ left = u ++ rest) : t = u ∧ left = rest := by
  have split := span_append_of_run run next
  rw [same, span_append_of_run run' next'] at split
  obtain ⟨runs, rests⟩ := Prod.mk.inj split
  exact ⟨runs.symm, rests.symm⟩

end Runs

def IsDigits (t : Text) : Prop := ∀ p ∈ t, p.isDigit = true

/-- The text does not begin with a digit. -/
def NoDigitFirst (t : Text) : Prop := ∀ p ∈ t.head?, p.isDigit = false

/-- A digit is no sign, no point and no letter. -/
theorem ne_of_isDigit {p : Point} {c : Char} (digit : p.isDigit = true)
    (other : c.isDigit = false) : p ≠ .char c := by
  rintro rfl
  rw [Point.isDigit, other] at digit
  cases digit

namespace IsDigits

theorem append (left : IsDigits t) (right : IsDigits u) : IsDigits (t ++ u) :=
  List.forall_mem_append.mpr ⟨left, right⟩

theorem take (digits : IsDigits t) (n : Nat) : IsDigits (t.take n) :=
  fun p member => digits p (List.mem_of_mem_take member)

theorem drop (digits : IsDigits t) (n : Nat) : IsDigits (t.drop n) :=
  fun p member => digits p (List.mem_of_mem_drop member)

theorem all (digits : IsDigits t) : t.all Point.isDigit = true := List.all_eq_true.mpr digits

theorem span_append (digits : IsDigits t) (next : NoDigitFirst u) :
    (t ++ u).span Point.isDigit = (t, u) :=
  span_append_of_run digits next

theorem head_ne {p : Point} {c : Char} (digits : IsDigits (p :: t)) (other : c.isDigit = false) :
    p ≠ .char c :=
  ne_of_isDigit (digits p List.mem_cons_self) other

end IsDigits

theorem noDigitFirst_nil : NoDigitFirst [] := fun _ member => by cases member

theorem noDigitFirst_cons {c : Char} (other : c.isDigit = false) :
    NoDigitFirst (.char c :: t) :=
  notFirst_cons other

theorem isDigits_zeros (n : Nat) : IsDigits (Double.zeros n) := by
  intro p member
  rw [List.eq_of_mem_replicate member]
  rfl

namespace Numeral

theorem foldl_append_digits (digits : Text) (init : Nat) :
    digits.foldl (fun n p => n * 10 + p.digitValue) init =
      init * Nat.pow 10 digits.length + value digits := by
  induction digits using List.reverseRec generalizing init with
  | nil => exact (Nat.mul_one init).symm
  | append_singleton digits p ih =>
    have start := ih 0
    rw [Nat.zero_mul, Nat.zero_add] at start
    have power : Nat.pow 10 (digits.length + 1) = Nat.pow 10 digits.length * 10 := rfl
    simp only [value, List.foldl_append, List.foldl_cons, List.foldl_nil, List.length_append,
      List.length_singleton, power]
    rw [ih init, start]
    ring

theorem value_append (t u : Text) : value (t ++ u) = value t * Nat.pow 10 u.length + value u := by
  rw [value, List.foldl_append, foldl_append_digits]
  rfl

@[simp] theorem value_zeros (n : Nat) : value (Double.zeros n) = 0 := by
  induction n with
  | zero => rfl
  | succ n ih =>
    have split : Double.zeros (n + 1) = Double.zeros n ++ [.char '0'] :=
      List.replicate_succ'
    rw [split, value_append, ih]
    rfl

theorem value_zeros_append (n : Nat) (t : Text) : value (Double.zeros n ++ t) = value t := by
  rw [value_append, value_zeros, Nat.zero_mul, Nat.zero_add]

theorem value_append_zeros (t : Text) (n : Nat) :
    value (t ++ Double.zeros n) = value t * Nat.pow 10 n := by
  rw [value_append, value_zeros, Nat.add_zero, Double.zeros, List.length_replicate]

theorem value_ofNat (n : Nat) : value (ofNat n) = n := by
  have step : (fun (n : Nat) (p : Char) => n * 10 + Point.digitValue (.char p)) =
      fun sofar c => 10 * sofar + (c.toNat - '0'.toNat) := by
    funext n c
    rw [Nat.mul_comm]
    rfl
  rw [value, ofNat, List.foldl_map, step]
  exact Nat.ofDigitChars_ten_toDigits

theorem isDigits_ofNat (n : Nat) : IsDigits (ofNat n) := by
  intro p member
  obtain ⟨c, digit, rfl⟩ := List.mem_map.mp member
  exact Nat.isDigit_of_mem_toDigits (by decide) (by decide) digit

theorem ofNat_ne_nil (n : Nat) : ofNat n ≠ [] := by
  simp [ofNat]

theorem length_ofNat_pos (n : Nat) : 0 < (ofNat n).length :=
  List.length_pos_iff.mpr (ofNat_ne_nil n)

theorem length_ofNat_le_iff {k : Nat} (positive : 0 < k) :
    (ofNat n).length ≤ k ↔ n < Nat.pow 10 k := by
  rw [ofNat, List.length_map]
  exact Nat.length_toDigits_le_iff (by decide) positive

theorem head?_ofNat_ne_zero (positive : 0 < n) : (ofNat n).head? ≠ some (.char '0') := by
  -- from ten on the first digit is that of a tenth of the number
  induction n using Nat.strongRecOn with
  | ind n ih =>
    rcases Nat.lt_or_ge n 10 with small | large
    · have digits : ∀ n < 10, 0 < n → (ofNat n).head? ≠ some (.char '0') := by decide
      exact digits n small positive
    · have shorter := ih (n / 10) (Nat.div_lt_self positive (by decide))
        (Nat.div_pos large (by decide))
      have split : ofNat n = ofNat (n / 10) ++ [.char (n % 10).digitChar] := by
        rw [ofNat, Nat.toDigits_of_base_le (by decide) large, List.map_append]
        rfl
      rw [split, List.head?_append_of_ne_nil _ (ofNat_ne_nil _)]
      exact shorter

theorem ofDigits?_eq_ok_iff : ofDigits? t = .ok n ↔ t.length ≤ digitLimit ∧ value t = n := by
  unfold ofDigits?
  split
  next few => simp [few]
  next many => simp [many]

/-- What the readers ask of the digits after a sign. -/
theorem refuses_eq_true_iff :
    (t.isEmpty || !t.all Point.isDigit) = true ↔ ¬ (t ≠ [] ∧ IsDigits t) := by
  have all : t.all Point.isDigit = true ↔ IsDigits t := List.all_eq_true
  rw [← all]
  by_cases empty : t = [] <;> simp [empty]

theorem readI32_of_split {s : Bool} {i : Int} (split : splitSign t = (s, u)) :
    readI32 t = .ok i ↔ (u ≠ [] ∧ IsDigits u) ∧ u.length ≤ digitLimit ∧
      signed s (value u) = i ∧ -0x80000000 ≤ i ∧ i < 0x80000000 := by
  rw [readI32, split]
  by_cases taken : u ≠ [] ∧ IsDigits u
  · have passed := mt refuses_eq_true_iff.mp (not_not_intro taken)
    simp only [if_neg passed]
    cases converted : ofDigits? u with
    | error count =>
      have many : ¬ u.length ≤ digitLimit := by
        intro few
        cases converted.symm.trans (ofDigits?_eq_ok_iff.mpr ⟨few, rfl⟩)
      simp [many]
    | ok n =>
      obtain ⟨few, rfl⟩ := ofDigits?_eq_ok_iff.mp converted
      by_cases inside : -0x80000000 ≤ signed s (value u) ∧ signed s (value u) < 0x80000000
      · simp only [if_pos inside, Except.ok.injEq]
        constructor
        · rintro rfl
          exact ⟨taken, few, rfl, inside⟩
        · rintro ⟨_, _, same, _⟩
          exact same
      · simp only [if_neg inside, reduceCtorEq, false_iff]
        rintro ⟨_, _, rfl, within⟩
        exact inside within
  · have refused := refuses_eq_true_iff.mpr taken
    simp only [if_pos refused, reduceCtorEq, taken, false_and]

/-- A numeral is a single zero or does not begin with one. -/
def Canonical (t : Text) : Prop := t = [.char '0'] ∨ t.head? ≠ some (.char '0')

theorem canonical_ofNat (n : Nat) : Canonical (ofNat n) := by
  rcases Nat.eq_zero_or_pos n with rfl | positive
  · exact Or.inl rfl
  · exact Or.inr (head?_ofNat_ne_zero positive)

end Numeral

end TextExpr
