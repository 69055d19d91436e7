/-! What a pattern is made of, in the order it is written. -/
namespace TextExpr.Pattern

structure Flags where
  ignoreCase : Bool := false
  multiline : Bool := false
  dotAll : Bool := false
  verbose : Bool := false
  ascii : Bool := false
  unicode : Bool := false
  template : Bool := false
  deriving DecidableEq, Repr

namespace Flags

def none : Flags := {}

def union (f g : Flags) : Flags where
  ignoreCase := f.ignoreCase || g.ignoreCase
  multiline := f.multiline || g.multiline
  dotAll := f.dotAll || g.dotAll
  verbose := f.verbose || g.verbose
  ascii := f.ascii || g.ascii
  unicode := f.unicode || g.unicode
  template := f.template || g.template

def remove (f g : Flags) : Flags where
  ignoreCase := f.ignoreCase && !g.ignoreCase
  multiline := f.multiline && !g.multiline
  dotAll := f.dotAll && !g.dotAll
  verbose := f.verbose && !g.verbose
  ascii := f.ascii && !g.ascii
  unicode := f.unicode && !g.unicode
  template := f.template && !g.template

def meets (f g : Flags) : Bool :=
  f.ignoreCase && g.ignoreCase || f.multiline && g.multiline || f.dotAll && g.dotAll ||
    f.verbose && g.verbose || f.ascii && g.ascii || f.unicode && g.unicode ||
    f.template && g.template

def isEmpty (f : Flags) : Bool := f = none

/-- The alphabet of the character classes is named. -/
def namesAlphabet (f : Flags) : Bool := f.ascii || f.unicode

/-- The flags of a group: an alphabet it names replaces the one outside. -/
def within (outer on off : Flags) : Flags :=
  let base := if on.namesAlphabet then { outer with ascii := false, unicode := false } else outer
  (base.union on).remove off

end Flags

inductive Category where
  | digit
  | space
  | word
  deriving DecidableEq, Repr

inductive Member where
  | point (n : Nat)
  | range (lo hi : Nat)
  | category (c : Category) (negated : Bool)
  deriving DecidableEq, Repr

inductive Anchor where
  | textStart
  | textEnd
  | lineStart
  | lineEnd
  | boundary
  | nonBoundary
  deriving DecidableEq, Repr

inductive Greed where
  | greedy
  | lazy
  | possessive
  deriving DecidableEq, Repr

/-- One item of a sequence. An open upper bound of a repetition is `none`. -/
inductive Item where
  | point (n : Nat) (negated : Bool)
  | any
  | set (negated : Bool) (members : List Member)
  | anchor (a : Anchor)
  | backref (group : Nat)
  | group (number : Option Nat) (on off : Flags) (body : List Item)
  | atomic (body : List Item)
  | look (behind negated : Bool) (body : List Item)
  | cond (group : Nat) (yes : List Item) (no : Option (List Item))
  | alt (branches : List (List Item))
  | rep (greed : Greed) (min : Nat) (max : Option Nat) (body : List Item)

namespace Item

/-- Items that hold no others, and are the same. -/
def sameSimple : Item → Item → Bool
  | point m a, point n b => m == n && a == b
  | any, any => true
  | set a ms, set b ns => a == b && ms == ns
  | anchor a, anchor b => a == b
  | backref m, backref n => m == n
  | _, _ => false

def isAnchor : Item → Bool
  | anchor _ => true
  | _ => false

def isRepetition : Item → Bool
  | rep .. => true
  | _ => false

/-- What a group holds that neither captures nor sets a flag; else the item alone. -/
def unwrap : Item → List Item
  | group none on off body =>
    if on.isEmpty && off.isEmpty then body else [group none on off body]
  | item => [item]

/-- The members of an item that accepts one point out of a list. -/
def members? : Item → Option (List Member)
  | point n false => some [.point n]
  | set false ms => some ms
  | _ => none

end Item

/-- The item with which all branches begin. -/
def commonHead? (branches : List (List Item)) : Option Item :=
  match branches with
  | (head :: _) :: others =>
    if others.all fun b => match b with
      | item :: _ => item.sameSimple head
      | [] => false
    then some head else none
  | _ => none

def singleMembers? : List Item → Option (List Member)
  | [item] => item.members?
  | _ => none

/-- Branches as one sequence: what all begin with stands in front, and branches of one
point each are a set. -/
def factor : Nat → List (List Item) → List Item
  | 0, branches => [.alt branches]
  | fuel + 1, branches =>
    match commonHead? branches with
    | some head => head :: factor fuel (branches.map List.tail)
    | none =>
      match branches.mapM singleMembers? with
      | some members => [.set false members.flatten.eraseDups]
      | none => [.alt branches]

def alternatives : List (List Item) → List Item
  | [only] => only
  | branches => factor (branches.flatten.length + 1) branches

end TextExpr.Pattern
