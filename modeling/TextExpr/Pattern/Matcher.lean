import TextExpr.Pattern.Node

/-! Matching with backtracking. A node is given what is to match after it, and gives the
first way, in the order of preference, in which both match. -/
namespace TextExpr.Pattern

abbrev Subject := Array Point

/-- A position, and the places where groups began and ended, the latest first. -/
structure Spot where
  pos : Nat
  starts : List (Nat × Nat)
  ends : List (Nat × Nat)

namespace Spot

def start (pos : Nat) : Spot := ⟨pos, [], []⟩

def begin (group : Nat) (s : Spot) : Spot := { s with starts := (group, s.pos) :: s.starts }

def finish (group : Nat) (s : Spot) : Spot := { s with ends := (group, s.pos) :: s.ends }

/-- Where a group matched; it has if it ended no earlier than it last began. -/
def captured? (group : Nat) (s : Spot) : Option (Nat × Nat) :=
  match s.starts.lookup group, s.ends.lookup group with
  | some a, some b => if a ≤ b then some (a, b) else none
  | _, _ => none

end Spot

def isWordAt (ascii : Bool) (text : Subject) (i : Nat) : Bool :=
  match text[i]? with
  | some p => Category.word.holds ascii p.code
  | none => false

def isNewlineAt (text : Subject) (i : Nat) : Bool := text[i]? = some (.char '\n')

/-- Neither a boundary nor its contrary holds in an empty text. -/
def Place.holds (text : Subject) (i : Nat) : Place → Bool
  | textStart => i = 0
  | textEnd => i = text.size
  | lineStart => i = 0 || isNewlineAt text (i - 1)
  | lineEnd => i = text.size || isNewlineAt text i
  | lastLineEnd => i = text.size || i + 1 = text.size && isNewlineAt text i
  | boundary ascii negated =>
    let before := 0 < i && isWordAt ascii text (i - 1)
    0 < text.size && (before != isWordAt ascii text i) != negated

/-- The position after a repetition of `length` points from `i`, at `pos`. -/
def repeatAt (folding : Folding) (text : Subject) (i : Nat) : Nat → Nat → Option Nat
  | 0, pos => some pos
  | length + 1, pos =>
    match text[i]?, text[pos]? with
    | some p, some q =>
      if folding.fold p.code = folding.fold q.code then
        repeatAt folding text (i + 1) length (pos + 1)
      else none
    | _, _ => none

abbrev Rest := Spot → Option Spot

/-- May a loop that ran `count` times, and last began at `last`, run again? An optional
round that took nothing is the last one. -/
def mayRepeat (max : Option Nat) (count : Nat) (last : Option Nat) (pos : Nat) : Bool :=
  (match max with
    | some m => count < m
    | none => true) && last ≠ some pos

def greedyLoop (body : Spot → Rest → Option Spot) (min : Nat) (max : Option Nat) :
    Nat → Nat → Option Nat → Spot → Rest → Option Spot
  | 0, _, _, _, _ => none
  | fuel + 1, count, last, s, k =>
    if count < min then
      body s fun s' => greedyLoop body min max fuel (count + 1) last s' k
    else if mayRepeat max count last s.pos then
      match body s fun s' => greedyLoop body min max fuel (count + 1) (some s.pos) s' k with
      | some found => some found
      | none => k s
    else k s

def lazyLoop (body : Spot → Rest → Option Spot) (min : Nat) (max : Option Nat) :
    Nat → Nat → Option Nat → Spot → Rest → Option Spot
  | 0, _, _, _, _ => none
  | fuel + 1, count, last, s, k =>
    if count < min then
      body s fun s' => lazyLoop body min max fuel (count + 1) last s' k
    else match k s with
      | some found => some found
      | none =>
        if mayRepeat max count last s.pos then
          body s fun s' => lazyLoop body min max fuel (count + 1) (some s.pos) s' k
        else none

def possessiveLoop (body : Spot → Option Spot) (min : Nat) (max : Option Nat) :
    Nat → Nat → Option Nat → Spot → Option Spot
  | 0, _, _, _ => none
  | fuel + 1, count, last, s =>
    if count < min then
      match body s with
      | some s' => possessiveLoop body min max fuel (count + 1) last s'
      | none => none
    else if mayRepeat max count last s.pos then
      match body s with
      | some s' => possessiveLoop body min max fuel (count + 1) (some s.pos) s'
      | none => some s
    else some s

/-- Rounds that a loop can need: those it must run, one for each point that is left, one
that takes nothing, and the last look. -/
def rounds (text : Subject) (min pos : Nat) : Nat := min + (text.size - pos) + 3

def Node.run (text : Subject) : Node → Spot → Rest → Option Spot
  | empty, s, k => k s
  | fail, _, _ => none
  | point test, s, k =>
    match text[s.pos]? with
    | some p => if test.accepts p then k { s with pos := s.pos + 1 } else none
    | none => none
  | place p, s, k => if p.holds text s.pos then k s else none
  | backref group folding, s, k =>
    match s.captured? group with
    | none => none
    | some (a, b) =>
      match repeatAt folding text a (b - a) s.pos with
      | some pos => k { s with pos }
      | none => none
  | seq first second, s, k => run text first s fun s' => run text second s' k
  | alt first second, s, k =>
    match run text first s k with
    | some found => some found
    | none => run text second s k
  | capture group body, s, k => run text body (s.begin group) fun s' => k (s'.finish group)
  | rep .greedy min max body, s, k =>
    greedyLoop (run text body) min max (rounds text min s.pos) 0 none s k
  | rep .lazy min max body, s, k =>
    lazyLoop (run text body) min max (rounds text min s.pos) 0 none s k
  | rep .possessive min max body, s, k =>
    match possessiveLoop (fun s => run text body s some) min max (rounds text min s.pos) 0 none s with
    | some s' => k s'
    | none => none
  | atomic body, s, k =>
    match run text body s some with
    | some s' => k s'
    | none => none
  | look back false body, s, k =>
    if s.pos < back then none
    else match run text body { s with pos := s.pos - back } some with
      | some s' => k { s' with pos := s.pos }
      | none => none
  | look back true body, s, k =>
    if s.pos < back then k s
    else match run text body { s with pos := s.pos - back } some with
      | some _ => none
      | none => k s
  | cond group yes no, s, k =>
    if (s.captured? group).isSome then run text yes s k else run text no s k

end TextExpr.Pattern
