import TextExpr.Proofs.Arithmetic
import TextExpr.Proofs.Exact
import TextExpr.Proofs.Lookup
import TextExpr.Proofs.Positional

/-!
# Whole numbers among the computed ones

The shortest decimal of a whole number below 2^52 is the number itself, though it is looked for
among decimals that only have to be rounded to it. So the text of such a number is its numeral,
and a computed number is read as a whole number of 32 bits exactly if it is one.
-/
namespace TextExpr

open Double (one zeros signText)

namespace Decimal

/-- Zeros at the end go over into the exponent. -/
theorem stripZeros_eq (fuel : Nat) (d : Decimal) : ∃ k : Nat,
    d.digits = (stripZeros fuel d).digits * 10 ^ k ∧
    (stripZeros fuel d).exponent = d.exponent + k := by
  induction fuel generalizing d with
  | zero => exact ⟨0, by simp [stripZeros], by simp [stripZeros]⟩
  | succ fuel ih =>
    rw [stripZeros]
    by_cases last : d.digits ≠ 0 ∧ d.digits % 10 = 0
    · rw [if_pos last]
      obtain ⟨k, digits, exponent⟩ := ih ⟨d.digits / 10, d.exponent + 1⟩
      refine ⟨k + 1, ?_, ?_⟩
      · have tenth : d.digits / 10 * 10 = d.digits := by omega
        rw [Nat.pow_succ, ← Nat.mul_assoc, ← digits]
        exact tenth.symm
      · rw [exponent]
        push_cast
        ring
    · rw [if_neg last]
      exact ⟨0, by simp, by simp⟩

/-- The decimal is a whole number. -/
def IsWhole (d : Decimal) (n : Nat) : Prop := ∃ e : Nat, d.exponent = e ∧ d.digits * 10 ^ e = n

theorem IsWhole.normal {d : Decimal} {n : Nat} (whole : d.IsWhole n) : d.normal.IsWhole n := by
  obtain ⟨e, exponent, value⟩ := whole
  obtain ⟨k, digits, shifted⟩ := stripZeros_eq d.digits.log2 d
  refine ⟨k + e, ?_, ?_⟩
  · rw [Decimal.normal, shifted, exponent]
    push_cast
    ring
  · rw [Nat.pow_add, ← Nat.mul_assoc]
    rw [digits] at value
    exact value

end Decimal

namespace Numeral

variable {n : Nat}

theorem ofNat_mul_pow (positive : 0 < n) (k : Nat) : ofNat (n * 10 ^ k) = ofNat n ++ zeros k := by
  induction k with
  | zero => simp [zeros]
  | succ k ih =>
    have large : 10 ≤ n * 10 ^ (k + 1) := by
      have some_power : 0 < n * 10 ^ k := Nat.mul_pos positive (Nat.pow_pos (by decide))
      rw [Nat.pow_succ, ← Nat.mul_assoc]
      omega
    have tenth : n * 10 ^ (k + 1) / 10 = n * 10 ^ k := by
      rw [Nat.pow_succ, ← Nat.mul_assoc]
      exact Nat.mul_div_cancel _ (by decide)
    have last : n * 10 ^ (k + 1) % 10 = 0 := by
      rw [Nat.pow_succ, ← Nat.mul_assoc]
      exact Nat.mul_mod_left _ _
    have split : zeros (k + 1) = zeros k ++ [.char '0'] := List.replicate_succ'
    rw [ofNat, Nat.toDigits_of_base_le (by decide) large, tenth, last, List.map_append, split,
      ← List.append_assoc, ← ih]
    rfl

/-- A number has at least the value of its first digit's place. -/
theorem pow_le_of_length {c : Nat} (positive : 0 < n) (short : c < (ofNat n).length) :
    10 ^ c ≤ n := by
  rcases Nat.eq_zero_or_pos c with rfl | some_digits
  · exact positive
  · by_contra below
    have few := (length_ofNat_le_iff some_digits).mpr (Nat.lt_of_not_le below)
    omega

theorem length_ofNat_le_of_lt (below : n < leadingBit) : (ofNat n).length ≤ 17 := by
  rw [length_ofNat_le_iff (by decide)]
  exact Nat.lt_trans below (by decide)

end Numeral

namespace Magnitude

variable {n : Nat} {small : n ≤ 2 * leadingBit}

theorem decimalPoint_eq (m : Magnitude) : ∃ k : Nat, m.decimalPoint =
    (Nat.toDigits 10 (m.units * Nat.pow 10 k / one)).length - (k : ℤ) := by
  unfold decimalPoint
  exact ⟨_, rfl⟩

theorem decimalPoint_whole (positive : 0 < n) :
    (whole n small).decimalPoint = (Numeral.ofNat n).length := by
  have scaled : ∀ k, (whole n small).units * Nat.pow 10 k / one = n * 10 ^ k := by
    intro k
    rw [whole_units, Nat.mul_right_comm]
    exact Nat.mul_div_cancel _ one_pos
  have count : ∀ k, (Nat.toDigits 10 (n * 10 ^ k)).length = (Numeral.ofNat n).length + k := by
    intro k
    have digits := congrArg List.length (Numeral.ofNat_mul_pow positive k)
    rw [Numeral.ofNat, List.length_map, List.length_append, zeros, List.length_replicate] at digits
    exact digits
  obtain ⟨k, point⟩ := decimalPoint_eq (whole n small)
  rw [point, scaled, count]
  omega

/-- Before the last digit is reached a neighbour is a whole number of tens, and not too large. -/
theorem neighbours_whole {c : Nat} (positive : 0 < n) (few : 1 ≤ c)
    (within : c ≤ (Numeral.ofNat n).length) {d : Decimal}
    (neighbour : d ∈ (whole n small).neighbours c) : ∃ v, d.IsWhole v ∧ v ≤ 2 * n := by
  obtain ⟨e, places⟩ : ∃ e, (Numeral.ofNat n).length = c + e := Nat.exists_eq_add_of_le within
  have exponent : (whole n small).decimalPoint - c = e := by
    rw [decimalPoint_whole positive, places]
    omega
  have below : (whole n small).units / (one * Nat.pow 10 e) = n / 10 ^ e := by
    rw [whole_units, Nat.mul_comm n one]
    exact Nat.mul_div_mul_left _ _ one_pos
  have step : 10 ^ e ≤ n := Numeral.pow_le_of_length positive (by omega)
  have down : n / 10 ^ e * 10 ^ e ≤ n := Nat.div_mul_le_self _ _
  have digits : d.exponent = e ∧ (d.digits = n / 10 ^ e ∨ d.digits = n / 10 ^ e + 1) := by
    unfold neighbours at neighbour
    simp only [exponent, Int.natCast_nonneg, if_true, Int.toNat_natCast, below] at neighbour
    split at neighbour
    all_goals
      rcases List.mem_pair.mp neighbour with rfl | rfl
      all_goals simp
  refine ⟨d.digits * 10 ^ e, ⟨e, digits.1, rfl⟩, ?_⟩
  rcases digits.2 with same | next
  · rw [same]
    omega
  · rw [next, Nat.add_mul, Nat.one_mul]
    omega

/-- With all its digits the nearest decimal is the whole number itself. -/
theorem mem_neighbours_whole (positive : 0 < n) :
    ⟨n, 0⟩ ∈ (whole n small).neighbours (Numeral.ofNat n).length := by
  have exponent : (whole n small).decimalPoint - (Numeral.ofNat n).length = 0 := by
    rw [decimalPoint_whole positive]
    omega
  have unscaled : ∀ unit : Nat, unit * Nat.pow 10 0 = unit := Nat.mul_one
  have below : n * one / one = n := Nat.mul_div_cancel _ one_pos
  have rest : n * one % one = 0 := Nat.mul_mod_left _ _
  unfold neighbours
  simp only [exponent, le_refl, if_true, Int.toNat_zero, whole_units, unscaled, below, rest,
    Nat.mul_zero, one_pos, true_or]
  exact List.mem_cons_self

theorem readsBack_whole {d : Decimal} {v : Nat} (isWhole : d.IsWhole v)
    (fits : v ≤ 2 * leadingBit) :
    (whole n small).readsBack d = true ↔ v = n := by
  obtain ⟨e, exponent, rfl⟩ := isWhole
  have read : Double.ofDecimal false d.digits d.exponent =
      .finite false (whole (d.digits * 10 ^ e) fits) := by
    have shifted := Double.ofDecimal_shift false d.digits e 0
    rw [Int.zero_add, ← exponent] at shifted
    rw [← shifted]
    exact Double.ofDecimal_whole false fits
  rw [readsBack, read, decide_eq_true_iff, Double.finite.injEq]
  constructor
  · rintro ⟨-, same⟩
    exact whole_inj same
  · intro same
    refine ⟨rfl, ext_units ?_⟩
    rw [whole_units, whole_units, same]

/-- The first decimal that reads back is found at the latest with all the digits. -/
theorem find?_candidates_whole (positive : 0 < n) (below : n < leadingBit) :
    ∃ d, ((List.range' 1 17).flatMap (whole n small).neighbours).find?
      (whole n small).readsBack = some d ∧ d.IsWhole n := by
  have length : 1 ≤ (Numeral.ofNat n).length := Numeral.length_ofNat_pos n
  have split : List.range' 1 17 = List.range' 1 (Numeral.ofNat n).length ++
      List.range' (1 + (Numeral.ofNat n).length) (17 - (Numeral.ofNat n).length) := by
    rw [List.range'_append_1, Nat.add_sub_cancel' (Numeral.length_ofNat_le_of_lt below)]
  have own : (whole n small).readsBack ⟨n, 0⟩ = true :=
    (readsBack_whole ⟨0, rfl, by simp⟩ small).mpr rfl
  have candidate : ⟨n, 0⟩ ∈ (List.range' 1 (Numeral.ofNat n).length).flatMap
      (whole n small).neighbours := by
    refine List.mem_flatMap.mpr ⟨_, ?_, mem_neighbours_whole positive⟩
    rw [List.mem_range'_1]
    omega
  rw [split, List.flatMap_append, List.find?_append]
  cases found : ((List.range' 1 (Numeral.ofNat n).length).flatMap
      (whole n small).neighbours).find? (whole n small).readsBack with
  | none => exact absurd own (List.find?_eq_none.mp found _ candidate)
  | some d =>
    obtain ⟨c, range, neighbour⟩ := List.mem_flatMap.mp (List.mem_of_find?_eq_some found)
    rw [List.mem_range'_1] at range
    obtain ⟨v, isWhole, most⟩ := neighbours_whole positive range.1 (by omega) neighbour
    have reads : (whole n small).readsBack d = true := List.find?_some found
    have same : v = n := (readsBack_whole isWhole (by omega)).mp reads
    rw [same] at isWhole
    exact ⟨d, rfl, isWhole⟩

theorem shortest_whole (positive : 0 < n) (below : n < leadingBit) :
    (whole n small).shortest.IsWhole n := by
  obtain ⟨d, found, isWhole⟩ := find?_candidates_whole positive below
  rw [shortest, found]
  exact isWhole.normal

/-- A whole number is written as its numeral. -/
theorem plainDigits_whole (below : n < leadingBit) :
    Double.plainDigits (whole n small).shortest = Numeral.ofNat n := by
  rcases Nat.eq_zero_or_pos n with rfl | positive
  · have none_left : whole 0 small = zero := ext_units (Nat.zero_mul one)
    rw [none_left]
    decide +kernel
  · have isWhole : (whole n small).shortest.IsWhole n := shortest_whole positive below
    obtain ⟨e, exponent, value⟩ := isWhole
    generalize (whole n small).shortest = d at *
    have some_digits : 0 < d.digits := by
      by_contra none_left
      rw [Nat.eq_zero_of_not_pos none_left, Nat.zero_mul] at value
      omega
    have long : (Numeral.ofNat d.digits).length ≤ (Numeral.ofNat d.digits).length + d.exponent := by
      omega
    rw [Double.plainDigits, if_neg some_digits.ne', ← value, Numeral.ofNat_mul_pow some_digits,
      Double.placePoint_of_long (Numeral.ofNat_ne_nil _) long]
    congr 2
    omega

end Magnitude

namespace Numeral

variable {n : Nat}

/-- What is read as a whole number, of a text that begins with a digit after a sign or none. -/
theorem readI32_eq_ok_iff {t : Text} (digits : IsDigits t) (nonempty : t ≠ []) (s : Bool)
    (u : Text) {i : ℤ} : readI32 (signText s ++ (t ++ u)) = .ok i ↔
      IsDigits u ∧ (t ++ u).length ≤ digitLimit ∧ signed s (value (t ++ u)) = i ∧
      -0x80000000 ≤ i ∧ i < 0x80000000 := by
  have rest : IsDigits (t ++ u) ↔ IsDigits u :=
    ⟨fun all p inside => all p (List.mem_append_right t inside), digits.append⟩
  have split := (isSign_signText s).splitSign_append (digits.noSignFirst.append nonempty u)
  rw [readI32_of_split split, rest]
  simp [nonempty]

end Numeral

namespace Double

variable {x : Double} {i : ℤ}

/-- The number is a whole number of 32 bits. The zero with a minus is the number zero. -/
def IsI32 (x : Double) (i : ℤ) : Prop :=
  x.toRat? = some (i : ℚ) ∧ -0x80000000 ≤ i ∧ i < 0x80000000

/-- What is read has no point among its digits, so they are those of a whole number. -/
theorem isI32_of_readI32 {s : Bool} {m : Magnitude}
    (read : Numeral.readI32 (finite s m).plainText = .ok i) : (finite s m).IsI32 i := by
  obtain ⟨whole, fraction, spells⟩ := spells_plainDigits m.shortest
  rw [plainText, spells.text, Numeral.readI32_eq_ok_iff spells.digits spells.nonempty] at read
  obtain ⟨pointless, _, rfl, inside⟩ := read
  have none_after : fraction = [] := by
    by_contra some_after
    exact not_isDigits_pointed some_after (spells.digits.append pointless)
  have unpointed : whole ++ pointed fraction = whole := by
    rw [none_after]
    exact List.append_nil whole
  rw [unpointed] at inside ⊢
  have bound : leadingBit = 2 ^ 52 := rfl
  have small : Numeral.value whole ≤ 2 * leadingBit := by
    rw [← Json.natAbs_signed s (Numeral.value whole)]
    omega
  have number : ofDecimal s (Numeral.value whole) 0 = finite s m := by
    have rounded := spells.number s 0
    rw [none_after, List.append_nil, Int.add_zero] at rounded
    exact rounded.trans (ofRounded_shortest s m)
  rw [ofDecimal_whole s small] at number
  rw [← number]
  exact ⟨toRat?_whole s small, inside⟩

theorem IsI32.readI32 (isI32 : x.IsI32 i) : Numeral.readI32 x.plainText = .ok i := by
  obtain ⟨exact, inside⟩ := isI32
  have bound : leadingBit = 2 ^ 52 := rfl
  have below : i.natAbs < leadingBit := by omega
  obtain ⟨s, rfl, signed⟩ := eq_whole_of_toRat? (by omega) exact
  have digits := Numeral.isDigits_ofNat i.natAbs
  have few : (Numeral.ofNat i.natAbs).length ≤ Numeral.digitLimit :=
    Nat.le_trans (Numeral.length_ofNat_le_of_lt below) (by decide)
  have read := Numeral.readI32_eq_ok_iff digits (Numeral.ofNat_ne_nil _) s [] (i := i)
  rw [plainText, Magnitude.plainDigits_whole below]
  rw [List.append_nil, Numeral.value_ofNat] at read
  exact read.mpr ⟨by simp [IsDigits], few, signed, inside⟩

/-- The text of a number is read as a whole number of 32 bits exactly if the number is one. -/
theorem readI32_plainText : Numeral.readI32 x.plainText = .ok i ↔ x.IsI32 i := by
  constructor
  · intro read
    cases x with
    | nan => cases read
    | inf s => cases s <;> cases read
    | finite s m => exact isI32_of_readI32 read
  · exact IsI32.readI32

end Double

namespace Value

variable {v : Value} {x : Double}

theorem asI32_iff (text : v.text = x.plainText) {i : ℤ} : v.asI32 = .ok i ↔ x.IsI32 i := by
  rw [asI32_eq_ok_iff, text, Double.readI32_plainText]

/-- Other numbers than whole ones of 32 bits are refused, in an error about the value. -/
theorem asI32_conversion (text : v.text = x.plainText) (other : ∀ i, ¬ x.IsI32 i) :
    ∃ cause, v.asI32 = .error (.conversion v (Text.ofString "i32") cause) :=
  exists_asI32_refused fun i reads => other i ((asI32_iff text).mp reads)

end Value

/-- A whole number of 32 bits is taken and something made of it. Any other number is reported. -/
def TakenAsI32 (x : Double) (v : Value) (ended : Except Failure Value) (made : ℤ → Value)
    (report : EvalError → Failure) : Prop :=
  (∀ i, x.IsI32 i → ended = .ok (made i)) ∧
  ((∀ i, ¬ x.IsI32 i) → ∃ cause,
    ended = .error (report (.conversion v (Text.ofString "i32") cause)))

namespace Expr

variable {ctx : Context} {s : Span} {c e n : Expr} {d v w : Value} {x y : Double}

theorem index_takenAsI32 {items : List Json} (container : c.outcome ctx = .ok d)
    (decoded : d.asJson = .ok (.list items)) (index : e.outcome ctx = .ok v)
    (text : v.text = x.plainText) :
    TakenAsI32 x v ((Expr.index s c e).outcome ctx)
      (fun i => (Value.ofJson (itemAt items i)).withSpan s) .error := by
  constructor
  · intro i isI32
    have read : v.asI32 = .ok i := (Value.asI32_iff text).mpr isI32
    have found : indexValue s d v = .ok (.ofJson (itemAt items i)) := by
      rw [indexValue, decoded]
      simp only [read, bind, Except.bind]
      rfl
    exact outcome_index container index found
  · intro other
    obtain ⟨cause, refused⟩ := Value.asI32_conversion text other
    have missing : indexValue s d v =
        .error (.conversion v (Text.ofString "i32") cause) := by
      rw [indexValue, decoded]
      simp only [refused, bind, Except.bind]
    exact ⟨cause, outcome_index_failed container index missing⟩

theorem round_takenAsI32 (number : n.outcome ctx = .ok w) (reads : w.asDouble = .ok y)
    (places : e.outcome ctx = .ok v) (text : v.text = x.plainText) :
    TakenAsI32 x v ((call s Builtin.roundName [n, e]).outcome ctx)
      (fun i => (Value.ofText (y.fixedText i.toNat)).withSpan s)
      (fun error => (Failure.error error).locate s) := by
  have evaluated : (call s Builtin.roundName [n, e]).OperandValues ctx [w, v] :=
    .cons number (.cons places .nil)
  rw [outcome_call evaluated, callFunction_round]
  constructor
  · intro i isI32
    have read : v.asI32 = .ok i := (Value.asI32_iff text).mpr isI32
    simp only [Builtin.round, reads, read]
    rfl
  · intro other
    obtain ⟨cause, refused⟩ := Value.asI32_conversion text other
    refine ⟨cause, ?_⟩
    simp only [Builtin.round, reads, refused]
    rfl

/-- The text of a number is read as a whole number of 32 bits exactly if the number is one, and
gives it. So what an arithmetic tree ends in is an index of a list and a count of places exactly
then, and else is reported as no such number. -/
theorem computed_asI32 (x : Double) :
    (∀ i, (Value.ofDouble x).asI32 = .ok i ↔ x.IsI32 i) ∧
    ((∀ i, ¬ x.IsI32 i) → ∃ cause, (Value.ofDouble x).asI32 =
      .error (.conversion (.ofDouble x) (Text.ofString "i32") cause)) ∧
    ∀ (env : Env) (source : Option Source) (settings : Settings) (e : Expr) (v : Value),
      e.Arithmetic ⟨env, source, settings.trace⟩ →
      (evaluate e env source settings).outcome = .ok v → v.asDouble = .ok x →
      (∀ (s : Span) (c : Expr) (d : Value) (items : List Json),
        (evaluate c env source settings).outcome = .ok d → d.asJson = .ok (.list items) →
        TakenAsI32 x v (evaluate (.index s c e) env source settings).outcome
          (fun i => (Value.ofJson (itemAt items i)).withSpan s) .error) ∧
      (∀ (s : Span) (n : Expr) (w : Value) (y : Double),
        (evaluate n env source settings).outcome = .ok w → w.asDouble = .ok y →
        TakenAsI32 x v (evaluate (.call s Builtin.roundName [n, e]) env source settings).outcome
          (fun i => (Value.ofText (y.fixedText i.toNat)).withSpan s)
          (fun error => (Failure.error error).locate s)) := by
  refine ⟨fun i => Value.asI32_iff rfl, Value.asI32_conversion rfl, ?_⟩
  intro env source settings e v arithmetic ended reads
  have text : v.text = x.plainText := by
    obtain ⟨z, rfl⟩ := arithmetic.exists_double ended
    rw [Value.asDouble_ofDouble] at reads
    cases reads
    rfl
  constructor
  · intro s c d items container decoded
    exact index_takenAsI32 container decoded ended text
  · intro s n w y number numeric
    exact round_takenAsI32 number numeric ended text

/-- A product that is a whole number, and a quotient that is none. -/
theorem computed_asI32_product :
    let product : Expr := .bin ⟨0, 8, 0⟩ .times (.lit ⟨0, 3, 0⟩ ⟨"0.1", none⟩)
      (.lit ⟨6, 8, 0⟩ ⟨"20", none⟩)
    let quotient : Expr := .bin ⟨0, 5, 0⟩ .div (.lit ⟨0, 1, 0⟩ ⟨"1", none⟩)
      (.lit ⟨4, 5, 0⟩ ⟨"2", none⟩)
    let container : Expr := .lit ⟨10, 21, 0⟩ ⟨"[0,[1],1e2]", none⟩
    let number : Expr := .lit ⟨10, 15, 0⟩ ⟨"0.125", none⟩
    let s : Span := ⟨0, 24, 0⟩
    (evaluate (.index s container product) .empty none {}).outcome = .ok ⟨"100.0", some s⟩ ∧
    (evaluate (.call s Builtin.roundName [number, product]) .empty none {}).outcome =
      .ok ⟨"0.12", some s⟩ ∧
    ∃ cause, (evaluate (.index s container quotient) .empty none {}).outcome =
      .error (.error (.conversion ⟨"0.5", some ⟨0, 5, 0⟩⟩ (Text.ofString "i32") cause)) := by
  intro product quotient container number s
  have two : Double.IsI32 (.ofDecimal false 2 0) 2 :=
    Double.readI32_plainText.mp (by decide +kernel)
  have half : ∀ i, ¬ Double.IsI32 (.ofDecimal false 5 (-1)) i := by
    intro i isI32
    have read := Double.readI32_plainText.mpr isI32
    have text : (Double.ofDecimal false 5 (-1)).plainText = Text.ofString "0.5" := by
      decide +kernel
    rw [text] at read
    cases read
  have numeric : product.Arithmetic ⟨.empty, none, false⟩ :=
    .numeric _ _ _ (Or.inr (Or.inl rfl))
  have numeric' : quotient.Arithmetic ⟨.empty, none, false⟩ :=
    .numeric _ _ _ (Or.inr (Or.inr (Or.inl rfl)))
  have made : (evaluate product .empty none {}).outcome = .ok ⟨"2", some ⟨0, 8, 0⟩⟩ := by
    decide +kernel
  have made' : (evaluate quotient .empty none {}).outcome = .ok ⟨"0.5", some ⟨0, 5, 0⟩⟩ := by
    decide +kernel
  have decoded : ((⟨"[0,[1],1e2]", none⟩ : Value).withSpan ⟨10, 21, 0⟩).asJson =
      .ok (.list [.int 0, .list [.int 1], .float (.ofDecimal false 1 2)]) := by rfl
  have reads : ((⟨"0.125", none⟩ : Value).withSpan ⟨10, 15, 0⟩).asDouble =
      .ok (.ofDecimal false 125 (-3)) := Value.asDouble_eq_ok_iff.mpr (by decide +kernel)
  have used := (computed_asI32 (.ofDecimal false 2 0)).2.2 .empty none {} product _ numeric made
    (Value.asDouble_eq_ok_iff.mpr (by decide +kernel))
  have refused := (computed_asI32 (.ofDecimal false 5 (-1))).2.2 .empty none {} quotient _ numeric'
    made' (Value.asDouble_eq_ok_iff.mpr (by decide +kernel))
  refine ⟨?_, ?_, (refused.1 s container _ _ outcome_lit decoded).2 half⟩
  · rw [(used.1 s container _ _ outcome_lit decoded).1 2 two]
    decide +kernel
  · rw [(used.2 s number _ _ outcome_lit reads).1 2 two]
    decide +kernel

end Expr

end TextExpr
