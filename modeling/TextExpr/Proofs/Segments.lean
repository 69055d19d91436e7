import TextExpr.Proofs.Advance
import TextExpr.Proofs.Failure

/-!
# Replacing is literal

A text is cut into the matches of a pattern and what stands between them, and a replacement takes
the place of each match as it is. A template with the same effect is the replacement with its
backslashes doubled, whatever other escapes mean in templates. A text has a match exactly if the
pattern is found in it, and exactly if some replacement changes it.
-/
namespace TextExpr.Pattern

/-- What stands before the first match, and each match with what follows it up to the next one. -/
structure Segments where
  first : Text
  rest : List (Text × Text)

namespace Segments

variable {left t r : Text} {start : Nat} {found : List (Nat × Nat)}

def whole (g : Segments) : Text := g.first ++ g.rest.flatMap fun (taken, after) => taken ++ after

/-- The replacement in the place of each match. -/
def filled (g : Segments) (r : Text) : Text :=
  g.first ++ g.rest.flatMap fun (_, after) => r ++ after

/-- The text that is left from `start` on, cut at the ends of matches. -/
def cut (left : Text) (start : Nat) : List (Nat × Nat) → Segments
  | [] => ⟨left, []⟩
  | (a, b) :: later =>
    let next := cut (left.drop (b - start)) b later
    ⟨left.take (a - start), ((left.drop (a - start)).take (b - a), next.first) :: next.rest⟩

theorem length_cut : (cut left start found).rest.length = found.length := by
  induction found generalizing left start with
  | nil => rfl
  | cons ab later ih => exact congrArg Nat.succ ih

theorem filled_cut : (cut left start found).filled r = fillFrom left r start found := by
  induction found generalizing left start with
  | nil => exact List.append_nil left
  | cons ab later ih =>
    obtain ⟨a, b⟩ := ab
    rw [fillFrom, ← ih]
    simp only [filled, cut, List.flatMap_cons, List.append_assoc]

/-- Nothing is lost where matches go forward. -/
theorem whole_cut {pattern : Pattern} {text : Subject} {advance : Bool}
    (succession : Succession pattern text start advance found) :
    (cut left start found).whole = left := by
  induction succession generalizing left with
  | done _ => exact List.append_nil left
  | @next start a b advance later first _ ih =>
    obtain ⟨begins, _, ends, _⟩ := firstFrom_some first
    have jump : b - start = a - start + (b - a) := by omega
    have tail : (cut (left.drop (b - start)) b later).whole = left.drop (b - start) := ih
    rw [whole] at tail
    simp only [whole, cut, List.flatMap_cons, List.append_assoc, tail]
    rw [jump, ← List.drop_drop, List.take_append_drop, List.take_append_drop]

theorem length_le_filled {g : Segments} (some_match : g.rest ≠ []) :
    r.length ≤ (g.filled r).length := by
  obtain ⟨⟨taken, after⟩, later, split⟩ := List.exists_cons_of_ne_nil some_match
  simp only [filled, split, List.flatMap_cons, List.length_append]
  omega

/-- A replacement that is longer than the text changes it, if it has a place in it. -/
theorem exists_filled_ne_iff {g : Segments} : (∃ r, g.filled r ≠ g.whole) ↔ g.rest ≠ [] := by
  constructor
  · rintro ⟨r, changed⟩ none_matched
    apply changed
    rw [filled, whole, none_matched]
    rfl
  · intro some_match
    refine ⟨List.replicate (g.whole.length + 1) default, ?_⟩
    intro same
    have long := length_le_filled (r := List.replicate (g.whole.length + 1) default) some_match
    rw [same, List.length_replicate] at long
    omega

end Segments

namespace Template

/-- What a template writes in the place of a match, which it may depend on. -/
abbrev Writing := Nat × Nat → Text

/-- What any escape but a doubled backslash means, given the point after the backslash and what
follows it: what it writes and what is left of the template, or that it is refused. -/
abbrev Escapes := Point → Text → Option (Writing × Text)

/-- Each point written twice that is special in a template. -/
def escape (t : Text) : Text := t.flatMap fun p => if p = .char '\\' then [p, p] else [p]

/-- A template read point by point. All points but backslashes stand for themselves, and two
backslashes for one. -/
def read? (escapes : Escapes) : Nat → Text → Option Writing
  | _, [] => some fun _ => []
  | 0, _ :: _ => none
  | fuel + 1, p :: rest =>
    if p = .char '\\' then
      match rest with
      | [] => none
      | q :: rest =>
        if q = .char '\\' then
          (read? escapes fuel rest).map fun writing m => .char '\\' :: writing m
        else do
          let (written, rest) ← escapes q rest
          let writing ← read? escapes fuel rest
          return fun m => written m ++ writing m
    else (read? escapes fuel rest).map fun writing m => p :: writing m

theorem length_escape_lt (p : Point) (t : Text) :
    (escape t).length < (escape (p :: t)).length := by
  rw [escape, escape, List.flatMap_cons, List.length_append]
  split <;> simp

/-- A text with its special points doubled is read as the text itself. -/
theorem read?_escape (escapes : Escapes) {t : Text} {fuel : Nat}
    (enough : (escape t).length ≤ fuel) : read? escapes fuel (escape t) = some fun _ => t := by
  induction t generalizing fuel with
  | nil => cases fuel <;> rfl
  | cons p t ih =>
    have shorter := length_escape_lt p t
    cases fuel with
    | zero => omega
    | succ fuel =>
      have rest : read? escapes fuel (escape t) = some fun _ => t := ih (by omega)
      by_cases special : p = .char '\\'
      · have doubled : escape (p :: t) = .char '\\' :: .char '\\' :: escape t := by
          simp [escape, special]
        rw [doubled]
        simp [read?, rest, special]
      · have plain : escape (p :: t) = p :: escape t := by
          simp [escape, special]
        rw [plain]
        simp [read?, rest, special]

end Template

/-- The text that is left from `start` on, with what is written for each match in its place. -/
def writeFrom (writing : Template.Writing) (left : Text) (start : Nat) :
    List (Nat × Nat) → Text
  | [] => left
  | (a, b) :: later =>
    left.take (a - start) ++ writing (a, b) ++ writeFrom writing (left.drop (b - start)) b later

theorem writeFrom_const (r left : Text) (start : Nat) (found : List (Nat × Nat)) :
    writeFrom (fun _ => r) left start found = fillFrom left r start found := by
  induction found generalizing left start with
  | nil => rfl
  | cons ab later ih => rw [writeFrom, fillFrom, ih]

/-- Every match replaced by what a template writes for it, unless the template is refused. -/
def substitute (pattern : Pattern) (escapes : Template.Escapes) (template t : Text) :
    Option Text :=
  (Template.read? escapes template.length template).map fun writing =>
    writeFrom writing t 0 (pattern.allMatches t.toArray)

/-- Doubling its backslashes makes a replacement literal, whatever else templates can say. -/
theorem substitute_escape (pattern : Pattern) (escapes : Template.Escapes) (t r : Text) :
    pattern.substitute escapes (Template.escape r) t = some (pattern.replaceAll t r) := by
  rw [substitute, Template.read?_escape escapes (Nat.le_refl _)]
  exact congrArg some (writeFrom_const r t 0 _)

theorem isFoundIn_iff {pattern : Pattern} {t : Text} {found : List (Nat × Nat)}
    (succession : Succession pattern t.toArray 0 false found) :
    pattern.isFoundIn t = true ↔ found ≠ [] := by
  have starts : t.toArray.size + 1 - 0 = t.length + 1 := by simp
  unfold isFoundIn
  cases succession with
  | done none_left =>
    rw [starts] at none_left
    simp [none_left]
  | next found _ =>
    rw [starts] at found
    simp [found]

end Pattern

theorem root_locate (s : Span) (f : Failure) :
    (f.locate s).error?.map EvalError.root = f.error?.map EvalError.root := by
  rw [error?_locate, Option.map_map]
  rfl

section Calls

open Pattern

variable {subject pattern : Value} {f : Failure} {p : Pattern}

theorem callFunction_replace_of_compiled (compiled : compilePattern pattern.text = .ok p)
    (r : Value) (source : Option Source) :
    callFunction Builtin.replaceName [subject, pattern, r] source =
      ⟨[], .ok (.ofText (p.replaceAll subject.text r.text))⟩ := by
  have replaced : Builtin.replace [subject, pattern, r] =
      .ok (.ofText (p.replaceAll subject.text r.text)) := by
    simp only [Builtin.replace, compiled]
  exact congrArg (Run.mk []) replaced

theorem regexMatch_of_compiled (compiled : compilePattern pattern.text = .ok p) :
    applyBinary .regexMatch subject pattern = .ok (.ofBool (p.isFoundIn subject.text)) := by
  rw [applyBinary, matchText, compiled]
  rfl

/-- The matches that are found one after the other cut the subject into segments. Replacing puts
the replacement between the segments, literally: doubling its backslashes gives a template that
does the same. The operator says whether there is a match, and this is so exactly if replacing can
change the subject. A pattern that is refused is refused by both with the same failure, and the
span that a call puts around an error leaves its root as it is. -/
theorem replace_segments (subject pattern : Value) :
    (∀ p, compilePattern pattern.text = .ok p → ∃ found,
      p.Succession subject.text.toArray 0 false found ∧
      let g := Segments.cut subject.text 0 found
      g.whole = subject.text ∧
      (∀ r source, callFunction Builtin.replaceName [subject, pattern, r] source =
        ⟨[], .ok (.ofText (g.filled r.text))⟩) ∧
      (∀ escapes r, p.substitute escapes (Template.escape r) subject.text = some (g.filled r)) ∧
      applyBinary .regexMatch subject pattern = .ok (.ofBool (1 ≤ g.rest.length)) ∧
      (1 ≤ g.rest.length ↔ ∃ r source t,
        callFunction Builtin.replaceName [subject, pattern, r] source = ⟨[], .ok (.ofText t)⟩ ∧
          t ≠ subject.text)) ∧
    ∀ f, compilePattern pattern.text = .error f →
      (∀ r source, callFunction Builtin.replaceName [subject, pattern, r] source =
        ⟨[], .error f⟩) ∧
      applyBinary .regexMatch subject pattern = .error f ∧
      ∀ s, (f.locate s).error?.map EvalError.root = f.error?.map EvalError.root := by
  constructor
  · intro p compiled
    have succession := allMatches_succession p subject.text.toArray
    refine ⟨p.allMatches subject.text.toArray, succession, ?_⟩
    intro g
    have whole : g.whole = subject.text := Segments.whole_cut succession
    have called : ∀ r source, callFunction Builtin.replaceName [subject, pattern, r] source =
        ⟨[], .ok (.ofText (g.filled r.text))⟩ := by
      intro r source
      rw [Segments.filled_cut]
      exact callFunction_replace_of_compiled compiled r source
    have some_match : 1 ≤ g.rest.length ↔ g.rest ≠ [] := List.length_pos_iff
    refine ⟨whole, called, ?_, ?_, ?_⟩
    · intro escapes r
      rw [Segments.filled_cut]
      exact substitute_escape p escapes subject.text r
    · have counted : p.isFoundIn subject.text = decide (1 ≤ g.rest.length) := by
        rw [Bool.eq_iff_iff, decide_eq_true_iff, isFoundIn_iff succession, Segments.length_cut]
        exact List.length_pos_iff.symm
      rw [regexMatch_of_compiled compiled, counted]
    · rw [some_match, ← Segments.exists_filled_ne_iff, whole]
      constructor
      · rintro ⟨r, changed⟩
        exact ⟨.ofText r, none, _, called _ _, changed⟩
      · rintro ⟨r, source, t, ended, changed⟩
        have same := congrArg Run.outcome ((called r source).symm.trans ended)
        cases same
        exact ⟨r.text, changed⟩
  · intro f refused
    refine ⟨?_, matchText_eq_error_iff.mpr refused, fun s => root_locate s f⟩
    intro r source
    exact congrArg (Run.mk []) (replace_of_refused refused)

/-- Empty matches next to others, with a replacement that would be a reference in a template, and
a pattern that is refused. -/
theorem replace_segments_adjacent :
    let subject : Value := ⟨"axb", none⟩
    let r : Value := ⟨"\\1\\", none⟩
    (∃ p found, compilePattern "x*" = .ok p ∧
      p.Succession subject.text.toArray 0 false found ∧
      (Segments.cut subject.text 0 found).whole = "axb" ∧
      (Segments.cut subject.text 0 found).filled r.text =
        "\\1\\a\\1\\\\1\\b\\1\\" ∧
      applyBinary .regexMatch subject ⟨"x*", none⟩ = .ok (.ofBool true)) ∧
    ∃ f, compilePattern "[a" = .error f ∧
      callFunction Builtin.replaceName [subject, ⟨"[a", none⟩, r] none = ⟨[], .error f⟩ ∧
      applyBinary .regexMatch subject ⟨"[a", none⟩ = .error f := by
  intro subject r
  constructor
  · have text : (callFunction Builtin.replaceName [subject, ⟨"x*", none⟩, r] none).outcome =
        .ok (.ofText "\\1\\a\\1\\\\1\\b\\1\\") := by decide +kernel
    have matched : applyBinary .regexMatch subject ⟨"x*", none⟩ = .ok (.ofBool true) := by
      decide +kernel
    cases compiled : compilePattern "x*" with
    | error f =>
      have refused : applyBinary .regexMatch subject ⟨"x*", none⟩ = .error f :=
        matchText_eq_error_iff.mpr compiled
      cases refused.symm.trans matched
    | ok p =>
      obtain ⟨found, succession, whole, called, _⟩ :=
        (replace_segments subject ⟨"x*", none⟩).1 p compiled
      have ended := congrArg Run.outcome (called r none)
      have filled := congrArg Value.text (Except.ok.inj (ended.symm.trans text))
      exact ⟨p, found, rfl, succession, whole, filled, matched⟩
  · have refused : applyBinary .regexMatch subject ⟨"[a", none⟩ =
        .error (.error (.invalidRegex "unterminated character set at position 0")) := by
      decide +kernel
    have rejected : compilePattern "[a" = .error _ := matchText_eq_error_iff.mp refused
    obtain ⟨called, _⟩ := (replace_segments subject ⟨"[a", none⟩).2 _ rejected
    exact ⟨_, rejected, called r none, refused⟩

end Calls

end TextExpr
