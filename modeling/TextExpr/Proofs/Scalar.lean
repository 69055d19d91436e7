import TextExpr.Json.Printer
import TextExpr.Proofs.Figures
import TextExpr.Proofs.Quotation
import TextExpr.Proofs.Run

/-!
# Words, strings and numbers read back

A number that is infinite or no number is written as a name which no document holds. The text of
any other document that holds none inside is read as the document, and what follows is left.
-/
namespace TextExpr.Json

open Double (signText scientificDigits)

variable {x y : Json} {rest left : Text} {depth fuel : Nat}

/-- What a reader says to the text of a document without looking into the document. -/
def verdict : Json → Except Trouble Unit
  | .float .nan => .error (.constant (Text.ofString "NaN"))
  | .float (.inf s) => .error (.constant (signText s ++ Text.ofString "Infinity"))
  | _ => .ok ()

/-- The documents in a document are looked at in the order in which they are written. -/
def verdictAll (x : Json) : Except Trouble Unit := forM x.parts verdict

theorem forM_flatMap {α β : Type} (l : List α) (f : α → List β) (g : β → Except Trouble Unit) :
    forM (l.flatMap f) g = forM l fun a => forM (f a) g := by
  induction l with
  | nil => rfl
  | cons a l ih => rw [List.flatMap_cons, List.forM_append, ih, List.forM_cons]

theorem forM_eq_ok_iff {α : Type} {l : List α} {g : α → Except Trouble Unit} :
    forM l g = .ok () ↔ ∀ a ∈ l, g a = .ok () := by
  induction l with
  | nil => simp [pure, Except.pure]
  | cons a l ih =>
    rw [List.forM_cons, bind_eq_ok_iff, List.forall_mem_cons, ← ih]
    exact ⟨fun ⟨_, first, others⟩ => ⟨first, others⟩, fun ⟨first, others⟩ => ⟨(), first, others⟩⟩

theorem forM_eq_error {α : Type} {l : List α} {g : α → Except Trouble Unit} {trouble : Trouble}
    (failed : forM l g = .error trouble) : ∃ a ∈ l, g a = .error trouble := by
  induction l with
  | nil => cases failed
  | cons a l ih =>
    rw [List.forM_cons, bind_eq_error_iff] at failed
    rcases failed with first | ⟨_, _, others⟩
    · exact ⟨a, List.mem_cons_self, first⟩
    · obtain ⟨b, member, refused⟩ := ih others
      exact ⟨b, List.mem_cons_of_mem _ member, refused⟩

theorem verdictAll_eq (x : Json) :
    verdictAll x = verdict x >>= fun _ => forM x.children verdictAll := by
  rw [verdictAll, parts_eq, List.forM_cons, forM_flatMap]
  rfl

theorem verdict_eq_ok_iff : verdict x = .ok () ↔ ∀ y, x = .float y → y.IsFinite := by
  cases x with
  | float y => cases y <;> simp [verdict, Double.IsFinite]
  | _ => simp [verdict]

theorem verdictAll_eq_ok_iff : verdictAll x = .ok () ↔ x.AllFinite := by
  rw [verdictAll, forM_eq_ok_iff]
  constructor
  · intro admitted y inside
    exact verdict_eq_ok_iff.mp (admitted _ inside) y rfl
  · intro finite y inside
    refine verdict_eq_ok_iff.mpr ?_
    rintro z rfl
    exact finite z inside

theorem verdictAll_eq_error {trouble : Trouble} (refused : verdictAll x = .error trouble) :
    ∃ name, trouble = .constant name := by
  obtain ⟨y, _, first⟩ := forM_eq_error refused
  unfold verdict at first
  split at first <;> cases first <;> exact ⟨_, rfl⟩

section Scalars

/-- What is read as a number begins with a digit, after a minus or without one. -/
theorem first_of_readNumber {t : Text} {found : Json × Text} (read : readNumber t = .ok found) :
    ∃ s p u, t = signText s ++ p :: u ∧ p.isDigit = true := by
  obtain ⟨v, numeral, rfl⟩ := isNumeral_of_readNumber read
  obtain ⟨s, w, after, rfl, digits, nonempty⟩ := numeral.exists_digits
  obtain ⟨p, u, rfl⟩ := List.exists_cons_of_ne_nil nonempty
  exact ⟨s, p, u ++ after ++ found.2, by simp, digits p List.mem_cons_self⟩

section Words

variable {s : Bool} {p : Point} {u : Text} (digit : p.isDigit = true)

include digit

theorem first_ne {c : Char} (noMinus : c ≠ '-') (noDigit : c.isDigit = false) (rest : Text) :
    signText s ++ p :: u ≠ .char c :: rest := by
  intro same
  cases s with
  | false => exact ne_of_isDigit digit noDigit (List.cons.inj same).1
  | true =>
    obtain ⟨minus, -⟩ := List.cons.inj same
    exact noMinus (Point.char.inj minus).symm

/-- No number begins with a word. -/
theorem isPrefixOf_word {word : Text} (long : 2 ≤ word.length)
    (letters : ∀ q ∈ word, q.isDigit = false) : word.isPrefixOf (signText s ++ p :: u) = false := by
  by_contra begins
  rw [Bool.not_eq_false, List.isPrefixOf_iff_prefix] at begins
  obtain ⟨v, same⟩ := begins
  match word, long with
  | a :: b :: w, _ =>
    cases s with
    | false =>
      obtain ⟨rfl, -⟩ := List.cons.inj same
      rw [letters a List.mem_cons_self] at digit
      cases digit
    | true =>
      obtain ⟨-, tail⟩ := List.cons.inj same
      obtain ⟨rfl, -⟩ := List.cons.inj tail
      rw [letters b (List.mem_cons_of_mem _ List.mem_cons_self)] at digit
      cases digit

theorem readScalar_number :
    readScalar (signText s ++ p :: u) = readNumber (signText s ++ p :: u) := by
  have noLiteral : literals.findSome? (fun w =>
      (after? w.1 (signText s ++ p :: u)).map fun left => (w.2, left)) = none := by
    rw [List.findSome?_eq_none_iff]
    intro w member
    have words : ∀ w ∈ literals, 2 ≤ w.1.length ∧ ∀ q ∈ w.1, q.isDigit = false := by decide
    rw [after?, isPrefixOf_word digit (words w member).1 (words w member).2]
    rfl
  have noConstant : constants.find? (·.isPrefixOf (signText s ++ p :: u)) = none := by
    rw [List.find?_eq_none]
    intro w member
    have words : ∀ w ∈ constants, 2 ≤ w.length ∧ ∀ q ∈ w, q.isDigit = false := by decide
    rw [isPrefixOf_word digit (words w member).1 (words w member).2]
    exact Bool.false_ne_true
  unfold readScalar
  split
  next rest quoted => exact absurd quoted (first_ne digit (by decide) (by decide) rest)
  next => rw [noLiteral, noConstant]

end Words

theorem readValue_scalar {t : Text} (noList : ∀ rest, t ≠ .char '[' :: rest)
    (noObject : ∀ rest, t ≠ .char '\x7b' :: rest) : readValue depth t = readScalar t := by
  cases depth with
  | zero =>
    unfold readValue
    split
    next => exact absurd rfl (noList _)
    next => exact absurd rfl (noObject _)
    next => rfl
  | succ depth =>
    unfold readValue
    split
    next => exact absurd rfl (noList _)
    next => exact absurd rfl (noObject _)
    next => rfl

theorem readValue_char {c : Char} (t : Text) (noList : c ≠ '[') (noObject : c ≠ '\x7b') :
    readValue depth (.char c :: t) = readScalar (.char c :: t) :=
  readValue_scalar (by simp [noList]) (by simp [noObject])

/-- What is read as a number is none of the words, no string and no container. -/
theorem readValue_of_readNumber {t : Text} {found : Json × Text}
    (read : readNumber t = .ok found) : readValue depth t = .ok found := by
  obtain ⟨s, p, u, rfl, digit⟩ := first_of_readNumber read
  rw [readValue_scalar (first_ne digit (by decide) (by decide))
    (first_ne digit (by decide) (by decide)), readScalar_number digit, read]

end Scalars

/-- Before any text that does not go on with a number, the text of the document is read as the
document, or refused for the first number in it that no document holds. -/
def ReadsBack (value : Text → Except Trouble (Json × Text)) (x : Json) : Prop :=
  ∀ rest, EndsNumber rest → value (x.print ++ rest) = (verdictAll x).map fun _ => (x, rest)

/-- A container holds documents, and may hold none. -/
def IsContainer : Json → Prop
  | .list _ => True
  | .obj _ => True
  | _ => False

theorem readsBack_scalar (scalar : ¬ x.IsContainer) (formed : x.WellFormed) (depth : Nat) :
    ReadsBack (readValue depth) x := by
  intro rest ends
  cases x with
  | list items => exact absurd trivial scalar
  | obj members => exact absurd trivial scalar
  | null => exact readValue_char _ (by decide) (by decide)
  | bool b => cases b <;> exact readValue_char _ (by decide) (by decide)
  | int i =>
    have short := formed.short i (self_mem_parts _)
    exact readValue_of_readNumber (readNumber_ofInt short ends)
  | str t =>
    rw [print, encode_append, readValue_char _ (by decide) (by decide), readScalar,
      readString_encode]
    rfl
  | float y =>
    cases y with
    | nan => exact readValue_char _ (by decide) (by decide)
    | inf s => cases s <;> exact readValue_char _ (by decide) (by decide)
    | finite s m =>
      rw [print, Double.scientificText, List.append_assoc]
      have number := readNumber_scientificDigits s m.shortest ends
      rw [Double.ofRounded_shortest] at number
      exact readValue_of_readNumber number

/-- The text begins as a value does: with no blank and no mark of an encoding, and not with the
end of a list. -/
def Opens (t : Text) : Prop :=
  ∃ p u, t = p :: u ∧ isBlank p = false ∧ p ≠ .char ']' ∧ p ≠ .char '\ufeff'

theorem Opens.append {t : Text} (opens : Opens t) (u : Text) : Opens (t ++ u) := by
  obtain ⟨p, v, rfl, first⟩ := opens
  exact ⟨p, v ++ u, rfl, first⟩

theorem Opens.skipBlanks {t : Text} (opens : Opens t) : skipBlanks t = t := by
  obtain ⟨p, v, rfl, blank, _⟩ := opens
  rw [Json.skipBlanks, List.dropWhile_cons, blank]
  rfl

theorem opens_char {c : Char} (t : Text)
    (first : isBlank (.char c) = false ∧ c ≠ ']' ∧ c ≠ '\ufeff') : Opens (.char c :: t) :=
  ⟨_, t, rfl, first.1, fun same => first.2.1 (Point.char.inj same),
    fun same => first.2.2 (Point.char.inj same)⟩

theorem opens_number {s : Bool} {p : Point} {u : Text} (digit : p.isDigit = true) :
    Opens (signText s ++ p :: u) := by
  cases s with
  | true => exact opens_char _ (by decide)
  | false =>
    refine ⟨p, u, rfl, ?_, ne_of_isDigit digit (by decide), ne_of_isDigit digit (by decide)⟩
    have noSpace : p ≠ .char ' ' := ne_of_isDigit digit (by decide)
    have noTab : p ≠ .char '\t' := ne_of_isDigit digit (by decide)
    have noNewline : p ≠ .char '\n' := ne_of_isDigit digit (by decide)
    have noReturn : p ≠ .char '\r' := ne_of_isDigit digit (by decide)
    simp [isBlank, noSpace, noTab, noNewline, noReturn]

theorem opens_print (x : Json) : Opens x.print := by
  cases x with
  | null => exact opens_char _ (by decide)
  | bool b => cases b <;> exact opens_char _ (by decide)
  | str t => exact opens_char _ (by decide)
  | list items => cases items <;> exact opens_char _ (by decide)
  | obj members => cases members <;> exact opens_char _ (by decide)
  | int i =>
    have digits := Numeral.isDigits_ofNat i.natAbs
    have nonempty := Numeral.ofNat_ne_nil i.natAbs
    rw [print, ofInt_eq]
    cases written : Numeral.ofNat i.natAbs with
    | nil => exact absurd written nonempty
    | cons p u =>
      rw [written] at digits
      exact opens_number (digits p List.mem_cons_self)
  | float y =>
    cases y with
    | nan => exact opens_char _ (by decide)
    | inf s => cases s <;> exact opens_char _ (by decide)
    | finite s m =>
      have number := readNumber_scientificDigits s m.shortest endsNumber_nil
      obtain ⟨s', p, u, first, digit⟩ := first_of_readNumber number
      rw [List.append_nil] at first
      rw [print, Double.scientificText, first]
      exact opens_number digit

theorem endsNumber_char {c : Char} (t : Text) (digit : c.isDigit = false) (point : c ≠ '.')
    (lower : c ≠ 'e') (upper : c ≠ 'E') : EndsNumber (.char c :: t) := by
  intro p first
  cases first
  exact ⟨digit, fun same => point (Point.char.inj same), fun same => lower (Point.char.inj same),
    fun same => upper (Point.char.inj same)⟩

end TextExpr.Json
