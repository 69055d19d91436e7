import Mathlib.Data.List.Forall2
import Mathlib.Data.List.TakeWhile
import Mathlib.Data.Nat.Digits.Defs
import TextExpr.Proofs.Conversion
import TextExpr.Proofs.Digits

/-!
# The grammar of number texts

A number is a sign or none and then a decimal or a word. A whole number is a sign or none and then
digits, at most 4300 of them. A text is read exactly if it is one of these from its first point to
its last, so nothing is skipped before a number or after it, and only ASCII counts.
-/
namespace TextExpr

open Double (lowerAscii readExponent? splitFraction readUnsigned? read?)
open Numeral (splitSign signed value refuses_eq_true_iff)

variable {t u w f m x : Text} {s : Bool} {e i : Int} {y : Double}

/-- A sign or none, and whether it is a minus. -/
inductive IsSign : Bool → Text → Prop where
  | none : IsSign false []
  | plus : IsSign false [.char '+']
  | minus : IsSign true [.char '-']

/-- Digits with a point among them, or none. At least one digit stands before it or after it. -/
inductive IsMantissa : Text → Text → Text → Prop where
  | whole {w : Text} (digits : IsDigits w) (nonempty : w ≠ []) : IsMantissa w [] w
  | pointed {w f : Text} (digits : IsDigits w) (nonempty : w ≠ []) (decimals : IsDigits f) :
      IsMantissa w f (w ++ .char '.' :: f)
  | bare {f : Text} (decimals : IsDigits f) (nonempty : f ≠ []) :
      IsMantissa [] f (.char '.' :: f)

/-- An exponent or none. -/
inductive IsExponent : Int → Text → Prop where
  | none : IsExponent 0 []
  | marked {c : Char} {s : Bool} {sign d : Text} (mark : c = 'e' ∨ c = 'E') (signs : IsSign s sign)
      (digits : IsDigits d) (nonempty : d ≠ []) :
      IsExponent (signed s (value d)) (.char c :: (sign ++ d))

/-- The letters of a word, each of them in either case. -/
def IsCaseOf (word : String) (t : Text) : Prop :=
  List.Forall₂ (fun c p => p = .char c ∨ p = .char c.toUpper) word.toList t

/-- A number text after its sign, and the number that it is read as. -/
inductive IsUnsigned (s : Bool) : Double → Text → Prop where
  | decimal {w f m x : Text} {e : Int} (mantissa : IsMantissa w f m) (exponent : IsExponent e x) :
      IsUnsigned s (.ofDecimal s (value (w ++ f)) (e - f.length)) (m ++ x)
  | infinity {t : Text} (word : IsCaseOf "inf" t ∨ IsCaseOf "infinity" t) :
      IsUnsigned s (.inf s) t
  | nan {t : Text} (word : IsCaseOf "nan" t) : IsUnsigned s .nan t

def IsNumberText (y : Double) (t : Text) : Prop :=
  ∃ s sign u, IsSign s sign ∧ IsUnsigned s y u ∧ t = sign ++ u

/-- The text of a whole number, leading zeros and all. -/
def IsWholeText (i : Int) (t : Text) : Prop :=
  ∃ s sign d, IsSign s sign ∧ IsDigits d ∧ t = sign ++ d ∧ 1 ≤ d.length ∧ d.length ≤ 4300 ∧
    i = signed s (Nat.ofDigits 10 (d.map Point.digitValue).reverse)

/-- A digit, a sign, the point, or a letter of an exponent or a word. -/
def IsNumberPoint (p : Point) : Prop :=
  p.isDigit = true ∨ p ∈ Text.ofString "+-." ∨ p ∈ Text.ofString "aefintyAEFINTY"

instance (p : Point) : Decidable (IsNumberPoint p) := inferInstanceAs (Decidable (_ ∨ _))

section Signs

/-- The text does not begin with a sign. -/
def NoSignFirst (t : Text) : Prop := ∀ p ∈ t.head?, p ≠ .char '-' ∧ p ≠ .char '+'

theorem isSign_signText (s : Bool) : IsSign s (Double.signText s) := by
  cases s with
  | true => exact .minus
  | false => exact .none

theorem isSign_splitSign (t : Text) :
    ∃ sign, IsSign (splitSign t).1 sign ∧ t = sign ++ (splitSign t).2 := by
  unfold splitSign
  split
  · exact ⟨_, .minus, rfl⟩
  · exact ⟨_, .plus, rfl⟩
  · exact ⟨_, .none, rfl⟩

theorem IsSign.splitSign_append {sign : Text} (signs : IsSign s sign) (next : NoSignFirst u) :
    splitSign (sign ++ u) = (s, u) := by
  cases signs with
  | plus | minus => rfl
  | none =>
    cases u with
    | nil => rfl
    | cons p u =>
      obtain ⟨minus, plus⟩ := next p rfl
      simp [splitSign, minus, plus]

theorem IsDigits.noSignFirst (digits : IsDigits t) : NoSignFirst t := by
  intro p first
  have digit := digits p (List.mem_of_mem_head? first)
  exact ⟨ne_of_isDigit digit (by decide), ne_of_isDigit digit (by decide)⟩

theorem NoSignFirst.append (noSign : NoSignFirst t) (nonempty : t ≠ []) (u : Text) :
    NoSignFirst (t ++ u) := by
  rwa [NoSignFirst, List.head?_append_of_ne_nil _ nonempty]

theorem splitSign_eq_iff {d : Text} (digits : IsDigits d) :
    splitSign t = (s, d) ↔ ∃ sign, IsSign s sign ∧ t = sign ++ d := by
  constructor
  · intro split
    have parts := isSign_splitSign t
    rwa [split] at parts
  · rintro ⟨sign, signs, rfl⟩
    exact signs.splitSign_append digits.noSignFirst

end Signs

section Exponents

theorem IsExponent.noDigitFirst (exponent : IsExponent e x) : NoDigitFirst x := by
  cases exponent with
  | none => exact noDigitFirst_nil
  | marked mark => rcases mark with rfl | rfl <;> exact noDigitFirst_cons (by decide)

theorem IsExponent.noPointFirst (exponent : IsExponent e x) : x.head? ≠ some (.char '.') := by
  cases exponent with
  | none => simp
  | marked mark => rcases mark with rfl | rfl <;> simp

theorem isExponent_of_read (read : readExponent? x = some e) : IsExponent e x := by
  cases x with
  | nil =>
    cases read
    exact .none
  | cons p rest =>
    rw [readExponent?] at read
    by_cases marked : p = .char 'e' ∨ p = .char 'E'
    · rw [if_pos marked] at read
      cases split : splitSign rest with
      | mk s d =>
        simp only [split] at read
        by_cases taken : d ≠ [] ∧ IsDigits d
        · rw [if_neg (mt refuses_eq_true_iff.mp (not_not_intro taken))] at read
          obtain ⟨nonempty, digits⟩ := taken
          obtain ⟨sign, signs, rfl⟩ := (splitSign_eq_iff digits).mp split
          cases read
          rcases marked with rfl | rfl
          · exact .marked (Or.inl rfl) signs digits nonempty
          · exact .marked (Or.inr rfl) signs digits nonempty
        · rw [if_pos (refuses_eq_true_iff.mpr taken)] at read
          cases read
    · rw [if_neg marked] at read
      cases read

theorem IsExponent.read (exponent : IsExponent e x) : readExponent? x = some e := by
  cases exponent with
  | none => rfl
  | @marked c s sign d mark signs digits nonempty =>
    have marked : Point.char c = .char 'e' ∨ Point.char c = .char 'E' :=
      mark.imp (congrArg Point.char) (congrArg Point.char)
    have split : splitSign (sign ++ d) = (s, d) :=
      signs.splitSign_append digits.noSignFirst
    have taken := mt refuses_eq_true_iff.mp (not_not_intro ⟨nonempty, digits⟩)
    simp only [readExponent?, if_pos marked, split, if_neg taken]

end Exponents

section Words

variable {word : String}

theorem toLower_eq_iff {c d : Char} (lower : c.isLower = true) :
    d.toLower = c ↔ d = c ∨ d = c.toUpper := by
  have letter : 'a'.val ≤ c.val ∧ c.val ≤ 'z'.val := by
    have tests : (decide (c.val ≥ 'a'.val) && decide (c.val ≤ 'z'.val)) = true := lower
    rwa [Bool.and_eq_true, decide_eq_true_eq, decide_eq_true_eq] at tests
  have raised : c.toUpper.val = c.val + ('A'.val - 'a'.val) := by
    have upper : c.toUpper = ⟨c.val + ('A'.val - 'a'.val), _⟩ := dif_pos letter
    rw [upper]
  have bounds : 'a'.val = 97 ∧ 'z'.val = 122 ∧ 'A'.val = 65 ∧ 'Z'.val = 90 := by decide
  rw [Char.ext_iff, Char.ext_iff, Char.ext_iff, raised]
  by_cases capital : 'A'.val ≤ d.val ∧ d.val ≤ 'Z'.val
  · have lowered : d.toLower.val = d.val + ('a'.val - 'A'.val) := by
      have lower : d.toLower = ⟨d.val + ('a'.val - 'A'.val), _⟩ := dif_pos capital
      rw [lower]
    rw [lowered]
    generalize c.val = c at *
    generalize d.val = d at *
    grind
  · have unchanged : d.toLower = d := dif_neg capital
    rw [unchanged]
    generalize c.val = c at *
    generalize d.val = d at *
    grind

theorem lowerAscii_eq_iff {c : Char} {p : Point} (lower : c.isLower = true) :
    lowerAscii p = .char c ↔ p = .char c ∨ p = .char c.toUpper := by
  cases p with
  | surrogate n => simp [lowerAscii]
  | char d => simp [lowerAscii, toLower_eq_iff lower]

/-- A word is compared in lower case. -/
theorem isCaseOf_iff (lower : word.toList.all Char.isLower = true) :
    IsCaseOf word t ↔ t.map lowerAscii = Text.ofString word := by
  rw [IsCaseOf, Text.ofString]
  rw [List.all_eq_true] at lower
  generalize word.toList = letters at *
  induction letters generalizing t with
  | nil => cases t <;> simp
  | cons c letters ih =>
    obtain ⟨first, others⟩ := List.forall_mem_cons.mp lower
    cases t with
    | nil => simp
    | cons p t =>
      rw [List.forall₂_cons, ih others, List.map_cons, List.map_cons, List.cons.injEq,
        lowerAscii_eq_iff first]

theorem IsCaseOf.mem (cased : IsCaseOf word t) (lower : word.toList.all Char.isLower = true)
    {p : Point} (inside : p ∈ t) : ∃ c ∈ word.toList, p = .char c ∨ p = .char c.toUpper := by
  have lowered : lowerAscii p ∈ t.map lowerAscii := List.mem_map_of_mem inside
  rw [(isCaseOf_iff lower).mp cased] at lowered
  obtain ⟨c, letter, same⟩ := List.mem_map.mp lowered
  exact ⟨c, letter, (lowerAscii_eq_iff (List.all_eq_true.mp lower c letter)).mp same.symm⟩

theorem lowerAscii_of_isDigit {p : Point} (digit : p.isDigit = true) : lowerAscii p = p := by
  cases p with
  | surrogate n => rfl
  | char c =>
    simp only [Point.isDigit, Char.isDigit, Bool.and_eq_true, decide_eq_true_eq] at digit
    have below : ¬ (c.val ≥ 'A'.val ∧ c.val ≤ 'Z'.val) :=
      fun upper => absurd (UInt32.le_trans upper.1 digit.2) (by decide)
    exact congrArg Point.char (dif_neg below)

theorem isCaseOf_words : (IsCaseOf "inf" t ↔ t.map lowerAscii = Text.ofString "inf") ∧
    (IsCaseOf "infinity" t ↔ t.map lowerAscii = Text.ofString "infinity") ∧
    (IsCaseOf "nan" t ↔ t.map lowerAscii = Text.ofString "nan") :=
  ⟨isCaseOf_iff rfl, isCaseOf_iff rfl, isCaseOf_iff rfl⟩

end Words

section Mantissas

theorem span_isDigit (t : Text) :
    ∃ w rest, t.span Point.isDigit = (w, rest) ∧ t = w ++ rest ∧ IsDigits w := by
  refine ⟨_, _, List.span_eq_takeWhile_dropWhile .., List.takeWhile_append_dropWhile.symm, ?_⟩
  intro p member
  exact List.mem_takeWhile_imp member

/-- A point and the digits after it, or the text does not begin with a point. -/
theorem splitFraction_eq (t : Text) :
    (∃ f rest, t = .char '.' :: (f ++ rest) ∧ IsDigits f ∧ splitFraction t = (f, rest)) ∨
    splitFraction t = ([], t) := by
  unfold splitFraction
  split
  next rest =>
    obtain ⟨f, after, split, rfl, decimals⟩ := span_isDigit rest
    exact Or.inl ⟨f, after, rfl, decimals, split⟩
  next => exact Or.inr rfl

theorem splitFraction_point (decimals : IsDigits f) (next : NoDigitFirst x) :
    splitFraction (.char '.' :: (f ++ x)) = (f, x) := by
  rw [splitFraction, decimals.span_append next]

theorem splitFraction_noPoint (noPoint : x.head? ≠ some (.char '.')) :
    splitFraction x = ([], x) := by
  unfold splitFraction
  split
  next => exact absurd rfl noPoint
  next => rfl

/-- A mantissa is taken from the front of a text that goes on with no digit and no point. -/
theorem IsMantissa.split (mantissa : IsMantissa w f m) (next : NoDigitFirst x)
    (noPoint : x.head? ≠ some (.char '.')) :
    ∃ rest, (m ++ x).span Point.isDigit = (w, rest) ∧ splitFraction rest = (f, x) ∧
      (w.isEmpty && f.isEmpty) = false := by
  cases mantissa with
  | whole digits nonempty =>
    exact ⟨x, digits.span_append next, splitFraction_noPoint noPoint, by simp [nonempty]⟩
  | pointed digits nonempty decimals =>
    refine ⟨.char '.' :: (f ++ x), ?_, splitFraction_point decimals next, by simp [nonempty]⟩
    rw [List.append_assoc, List.cons_append]
    exact digits.span_append (noDigitFirst_cons (by decide))
  | bare decimals nonempty =>
    exact ⟨.char '.' :: (f ++ x), by simp [Point.isDigit], splitFraction_point decimals next,
      by simp [nonempty]⟩

theorem exists_isMantissa {after rest : Text} (digits : IsDigits w)
    (fraction : splitFraction after = (f, rest)) (some_digit : (w.isEmpty && f.isEmpty) = false) :
    ∃ m, IsMantissa w f m ∧ w ++ after = m ++ rest := by
  rcases splitFraction_eq after with ⟨f', rest', rfl, decimals, split⟩ | split
  · cases split.symm.trans fraction
    by_cases empty : w = []
    · subst empty
      have nonempty : f ≠ [] := by
        rintro rfl
        cases some_digit
      exact ⟨_, .bare decimals nonempty, rfl⟩
    · exact ⟨_, .pointed digits empty decimals, by simp⟩
  · cases split.symm.trans fraction
    have nonempty : w ≠ [] := by
      rintro rfl
      cases some_digit
    exact ⟨w, .whole digits nonempty, rfl⟩

/-- A mantissa begins with no letter and no sign. -/
theorem IsMantissa.first (mantissa : IsMantissa w f m) :
    ∃ p rest, m = p :: rest ∧ (p.isDigit = true ∨ p = .char '.') := by
  cases mantissa with
  | whole digits nonempty | pointed digits nonempty =>
    obtain ⟨p, rest, rfl⟩ := List.exists_cons_of_ne_nil nonempty
    exact ⟨p, _, rfl, Or.inl (digits p List.mem_cons_self)⟩
  | bare => exact ⟨_, _, rfl, Or.inr rfl⟩

theorem IsMantissa.noSignFirst (mantissa : IsMantissa w f m) (x : Text) :
    NoSignFirst (m ++ x) := by
  obtain ⟨p, rest, rfl, digit | rfl⟩ := mantissa.first
  · rintro q ⟨⟩
    exact ⟨ne_of_isDigit digit (by decide), ne_of_isDigit digit (by decide)⟩
  · rintro q ⟨⟩
    decide

theorem IsMantissa.noWord (mantissa : IsMantissa w f m) (x : Text) :
    (m ++ x).map lowerAscii ≠ Text.ofString "inf" ∧
    (m ++ x).map lowerAscii ≠ Text.ofString "infinity" ∧
    (m ++ x).map lowerAscii ≠ Text.ofString "nan" := by
  obtain ⟨p, rest, rfl, first⟩ := mantissa.first
  have unchanged : lowerAscii p = p := by
    rcases first with digit | rfl
    · exact lowerAscii_of_isDigit digit
    · rfl
  have noLetter : ∀ c, c.isDigit = false → c ≠ '.' → p ≠ .char c := by
    intro c noDigit noPoint
    rcases first with digit | rfl
    · exact ne_of_isDigit digit noDigit
    · exact fun same => noPoint (Point.char.inj same).symm
  have i : p ≠ .char 'i' := noLetter _ (by decide) (by decide)
  have n : p ≠ .char 'n' := noLetter _ (by decide) (by decide)
  simp [Text.ofString, unchanged, i, n]

end Mantissas

section Reading

theorem isUnsigned_of_read (read : readUnsigned? s t = some y) : IsUnsigned s y t := by
  obtain ⟨inf, infinity, nan⟩ := isCaseOf_words (t := t)
  rw [readUnsigned?] at read
  by_cases infinite : t.map lowerAscii = Text.ofString "inf" ∨
      t.map lowerAscii = Text.ofString "infinity"
  · rw [if_pos infinite] at read
    cases read
    exact .infinity (infinite.imp inf.mpr infinity.mpr)
  rw [if_neg infinite] at read
  by_cases noNumber : t.map lowerAscii = Text.ofString "nan"
  · rw [if_pos noNumber] at read
    cases read
    exact .nan (nan.mpr noNumber)
  rw [if_neg noNumber] at read
  obtain ⟨w, after, split, rfl, digits⟩ := span_isDigit t
  cases fraction : splitFraction after with
  | mk f rest =>
    simp only [split, fraction] at read
    by_cases empty : (w.isEmpty && f.isEmpty) = true
    · rw [if_pos empty] at read
      cases read
    · rw [if_neg empty] at read
      obtain ⟨e, exponent, rfl⟩ := Option.map_eq_some_iff.mp read
      obtain ⟨m, mantissa, parts⟩ :=
        exists_isMantissa digits fraction (eq_false_of_ne_true empty)
      rw [parts]
      exact .decimal mantissa (isExponent_of_read exponent)

theorem IsUnsigned.read (unsigned : IsUnsigned s y t) : readUnsigned? s t = some y := by
  cases unsigned with
  | infinity word =>
    have infinite := word.imp isCaseOf_words.1.mp isCaseOf_words.2.1.mp
    rw [readUnsigned?, if_pos infinite]
  | nan word =>
    have noNumber := isCaseOf_words.2.2.mp word
    have finite : ¬ (t.map lowerAscii = Text.ofString "inf" ∨
        t.map lowerAscii = Text.ofString "infinity") := by
      rw [noNumber]
      decide
    rw [readUnsigned?, if_neg finite, if_pos noNumber]
  | @decimal w f m x e mantissa exponent =>
    obtain ⟨inf, infinity, nan⟩ := mantissa.noWord x
    obtain ⟨rest, digits, fraction, some_digit⟩ :=
      mantissa.split exponent.noDigitFirst exponent.noPointFirst
    rw [readUnsigned?, if_neg (not_or.mpr ⟨inf, infinity⟩), if_neg nan, digits]
    simp only [fraction, some_digit, exponent.read, Bool.false_eq_true, if_false,
      Option.map_some]

/-- What is no decimal is made of the letters of the words. -/
theorem IsUnsigned.decimal_or_word (unsigned : IsUnsigned s y t) :
    (∃ w f m x e, IsMantissa w f m ∧ IsExponent e x ∧ t = m ++ x) ∨
    ∀ p ∈ t, p ∈ Text.ofString "aefintyAEFINTY" := by
  have letters : ∀ {word : String}, IsCaseOf word t → word.toList.all Char.isLower = true →
      (word.toList.all fun c => Point.char c ∈ Text.ofString "aefintyAEFINTY" ∧
        Point.char c.toUpper ∈ Text.ofString "aefintyAEFINTY") = true →
      ∀ p ∈ t, p ∈ Text.ofString "aefintyAEFINTY" := by
    intro word cased lower known p inside
    obtain ⟨c, letter, same⟩ := cased.mem lower inside
    obtain ⟨small, capital⟩ := of_decide_eq_true (List.all_eq_true.mp known c letter)
    rcases same with rfl | rfl
    · exact small
    · exact capital
  cases unsigned with
  | decimal mantissa exponent => exact Or.inl ⟨_, _, _, _, _, mantissa, exponent, rfl⟩
  | infinity word => exact Or.inr (word.elim (letters · rfl rfl) (letters · rfl rfl))
  | nan word => exact Or.inr (letters word rfl rfl)

theorem IsUnsigned.noSignFirst (unsigned : IsUnsigned s y t) : NoSignFirst t := by
  rcases unsigned.decimal_or_word with ⟨w, f, m, x, e, mantissa, _, rfl⟩ | word
  · exact mantissa.noSignFirst x
  · intro p first
    have noSign : ∀ q ∈ Text.ofString "aefintyAEFINTY", q ≠ .char '-' ∧ q ≠ .char '+' := by
      decide
    exact noSign p (word p (List.mem_of_mem_head? first))

theorem read?_eq_some_iff : read? t = some y ↔ IsNumberText y t := by
  constructor
  · intro read
    obtain ⟨sign, signs, parts⟩ := isSign_splitSign t
    exact ⟨_, sign, _, signs, isUnsigned_of_read read, parts⟩
  · rintro ⟨s, sign, u, signs, unsigned, rfl⟩
    rw [read?, signs.splitSign_append unsigned.noSignFirst]
    exact unsigned.read

end Reading

section Points

theorem IsDigits.points (digits : IsDigits t) : ∀ p ∈ t, IsNumberPoint p :=
  fun p inside => Or.inl (digits p inside)

theorem IsSign.points (signs : IsSign s t) : ∀ p ∈ t, IsNumberPoint p := by
  have known : ∀ p ∈ t, p ∈ Text.ofString "+-." := by
    cases signs <;> decide
  exact fun p inside => Or.inr (Or.inl (known p inside))

theorem IsMantissa.points (mantissa : IsMantissa w f m) : ∀ p ∈ m, IsNumberPoint p := by
  have point : IsNumberPoint (.char '.') := Or.inr (Or.inl (by decide))
  cases mantissa with
  | whole digits => exact digits.points
  | pointed digits _ decimals =>
    exact List.forall_mem_append.mpr
      ⟨digits.points, List.forall_mem_cons.mpr ⟨point, decimals.points⟩⟩
  | bare decimals => exact List.forall_mem_cons.mpr ⟨point, decimals.points⟩

theorem IsExponent.points (exponent : IsExponent e x) : ∀ p ∈ x, IsNumberPoint p := by
  cases exponent with
  | none => simp
  | marked mark signs digits =>
    refine List.forall_mem_cons.mpr ⟨?_, List.forall_mem_append.mpr ⟨signs.points, digits.points⟩⟩
    rcases mark with rfl | rfl <;> exact Or.inr (Or.inr (by decide))

theorem IsNumberText.points (number : IsNumberText y t) : ∀ p ∈ t, IsNumberPoint p := by
  obtain ⟨s, sign, u, signs, unsigned, rfl⟩ := number
  refine List.forall_mem_append.mpr ⟨signs.points, ?_⟩
  rcases unsigned.decimal_or_word with ⟨w, f, m, x, e, mantissa, exponent, rfl⟩ | word
  · exact List.forall_mem_append.mpr ⟨mantissa.points, exponent.points⟩
  · exact fun p inside => Or.inr (Or.inr (word p inside))

theorem IsWholeText.points (number : IsWholeText i t) : ∀ p ∈ t, IsNumberPoint p := by
  obtain ⟨s, sign, d, signs, digits, rfl, _⟩ := number
  exact List.forall_mem_append.mpr ⟨signs.points, digits.points⟩

end Points

section Whole

theorem Numeral.value_eq_ofDigits (t : Text) :
    value t = Nat.ofDigits 10 (t.map Point.digitValue).reverse := by
  induction t using List.reverseRec with
  | nil => rfl
  | append_singleton t p ih =>
    rw [value, List.foldl_append, List.map_append, List.reverse_append, List.map_singleton,
      List.reverse_singleton, List.singleton_append, Nat.ofDigits_cons, ← ih, Nat.add_comm,
      Nat.mul_comm 10]
    rfl

theorem readI32_eq_ok_iff_isWholeText : Numeral.readI32 t = .ok i ↔
    IsWholeText i t ∧ -2 ^ 31 ≤ i ∧ i ≤ 2 ^ 31 - 1 := by
  constructor
  · intro read
    obtain ⟨sign, signs, parts⟩ := isSign_splitSign t
    obtain ⟨⟨nonempty, digits⟩, few, number, inside⟩ :=
      (Numeral.readI32_of_split rfl).mp read
    rw [Numeral.value_eq_ofDigits] at number
    refine ⟨⟨_, sign, _, signs, digits, parts, List.length_pos_iff.mpr nonempty, few, number.symm⟩,
      by omega⟩
  · rintro ⟨⟨s, sign, d, signs, digits, rfl, some_digit, few, rfl⟩, inside⟩
    have split := signs.splitSign_append digits.noSignFirst
    rw [Numeral.readI32_of_split split, Numeral.value_eq_ofDigits]
    exact ⟨⟨List.length_pos_iff.mp some_digit, digits⟩, few, rfl, by omega⟩

end Whole

namespace Value

theorem asDouble_eq_ok_iff_isNumberText {v : Value} :
    v.asDouble = .ok y ↔ IsNumberText y v.text :=
  asDouble_eq_ok_iff.trans read?_eq_some_iff

theorem asI32_eq_ok_iff_isWholeText {v : Value} :
    v.asI32 = .ok i ↔ IsWholeText i v.text ∧ -2 ^ 31 ≤ i ∧ i ≤ 2 ^ 31 - 1 :=
  asI32_eq_ok_iff.trans readI32_eq_ok_iff_isWholeText

/-- A value is read as a number exactly if its text is in the grammar, and any other value is
refused in an error about it. -/
theorem number_grammar (v : Value) :
    (∀ y, v.asDouble = .ok y ↔ IsNumberText y v.text) ∧
    ((¬ ∃ y, IsNumberText y v.text) →
      v.asDouble = .error (.conversion v (Text.ofString "f64") none)) ∧
    (∀ i, v.asI32 = .ok i ↔ IsWholeText i v.text ∧ -2 ^ 31 ≤ i ∧ i ≤ 2 ^ 31 - 1) ∧
    ((¬ ∃ i, IsWholeText i v.text ∧ -2 ^ 31 ≤ i ∧ i ≤ 2 ^ 31 - 1) →
      ∃ cause, v.asI32 = .error (.conversion v (Text.ofString "i32") cause)) ∧
    ((∃ p ∈ v.text, ¬ IsNumberPoint p) →
      v.asDouble = .error (.conversion v (Text.ofString "f64") none) ∧
      ∃ cause, v.asI32 = .error (.conversion v (Text.ofString "i32") cause)) := by
  have double : (¬ ∃ y, IsNumberText y v.text) →
      v.asDouble = .error (.conversion v (Text.ofString "f64") none) :=
    fun other => asDouble_refused fun y reads =>
      other ⟨y, asDouble_eq_ok_iff_isNumberText.mp reads⟩
  have whole : (¬ ∃ i, IsWholeText i v.text ∧ -2 ^ 31 ≤ i ∧ i ≤ 2 ^ 31 - 1) →
      ∃ cause, v.asI32 = .error (.conversion v (Text.ofString "i32") cause) :=
    fun other => exists_asI32_refused fun i reads =>
      other ⟨i, asI32_eq_ok_iff_isWholeText.mp reads⟩
  refine ⟨fun y => asDouble_eq_ok_iff_isNumberText, double, fun i => asI32_eq_ok_iff_isWholeText,
    whole, ?_⟩
  rintro ⟨p, inside, other⟩
  constructor
  · exact double fun ⟨y, number⟩ => other (number.points p inside)
  · exact whole fun ⟨i, number, _⟩ => other (number.points p inside)

/-- An underscore stands among the digits, and zeros stand before a digit after a sign. -/
theorem number_grammar_underscore :
    (⟨"1_000", none⟩ : Value).asDouble =
      .error (.conversion ⟨"1_000", none⟩ (Text.ofString "f64") none) ∧
    (⟨"+007", none⟩ : Value).asI32 = .ok 7 := by
  obtain ⟨-, -, -, -, refused⟩ := number_grammar ⟨"1_000", none⟩
  obtain ⟨-, -, taken, -⟩ := number_grammar ⟨"+007", none⟩
  have underscore : ∃ p ∈ Text.ofString "1_000", ¬ IsNumberPoint p :=
    ⟨.char '_', by decide, by decide⟩
  have seven : IsWholeText 7 "+007" :=
    ⟨false, "+", "007", .plus, List.all_eq_true.mp (by decide), rfl, by decide, by decide,
      by decide⟩
  exact ⟨(refused underscore).1, (taken 7).mpr ⟨seven, by decide⟩⟩

end Value

end TextExpr
