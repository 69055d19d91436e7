import TextExpr.Pattern.Matcher

/-! Searching a text from left to right, and replacing what is found. -/
namespace TextExpr.Pattern

/-- The end of the match that begins at `start`; with `advance` it may not be empty. -/
def endAt? (pattern : Pattern) (text : Subject) (start : Nat) (advance : Bool) : Option Nat :=
  (pattern.node.run text (.start start) fun s =>
    if advance && s.pos = start then none else some s).map Spot.pos

/-- The first match at one of `count` starts from `start` on; `advance` binds the first. -/
def firstFrom (pattern : Pattern) (text : Subject) (start : Nat) (advance : Bool) :
    Nat → Option (Nat × Nat)
  | 0 => none
  | count + 1 =>
    match endAt? pattern text start advance with
    | some stop => some (start, stop)
    | none => firstFrom pattern text (start + 1) false count

/-- The matches from `start` on that do not overlap. After an empty match the next one
may begin there only if it takes something. -/
def matchesFrom (pattern : Pattern) (text : Subject) (start : Nat) (advance : Bool) :
    Nat → List (Nat × Nat)
  | 0 => []
  | fuel + 1 =>
    match firstFrom pattern text start advance (text.size + 1 - start) with
    | none => []
    | some (a, b) => (a, b) :: matchesFrom pattern text b (a = b) fuel

/-- Every match, as the positions of its start and its end. -/
def allMatches (pattern : Pattern) (text : Subject) : List (Nat × Nat) :=
  matchesFrom pattern text 0 false (2 * text.size + 2)

def isFoundIn (pattern : Pattern) (t : Text) : Bool :=
  (firstFrom pattern t.toArray 0 false (t.length + 1)).isSome

/-- The text that is left from `start` on, with `replacement` in the place of each match. -/
def fillFrom (left replacement : Text) (start : Nat) : List (Nat × Nat) → Text
  | [] => left
  | (a, b) :: rest =>
    left.take (a - start) ++ replacement ++ fillFrom (left.drop (b - start)) replacement b rest

/-- Every match replaced; the replacement is taken as it is. -/
def replaceAll (pattern : Pattern) (t replacement : Text) : Text :=
  fillFrom t replacement 0 (allMatches pattern t.toArray)

end TextExpr.Pattern
