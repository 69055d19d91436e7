import TextExpr.Pattern.PointTest
import TextExpr.Pattern.Reader

/-! A pattern ready for matching: flags are settled at each node, and a lookbehind knows
how far back it begins. -/
namespace TextExpr.Pattern

/-- A place in the text, told by what stands before and after it. -/
inductive Place where
  | textStart
  | textEnd
  | lineStart
  /-- The end, or a newline that ends the text. -/
  | lastLineEnd
  | lineEnd
  | boundary (ascii negated : Bool)
  deriving DecidableEq, Repr

inductive Node where
  | empty
  | point (test : PointTest)
  | place (p : Place)
  | backref (group : Nat) (folding : Folding)
  | seq (first second : Node)
  | alt (first second : Node)
  | fail
  | capture (group : Nat) (body : Node)
  | rep (greed : Greed) (min : Nat) (max : Option Nat) (body : Node)
  | atomic (body : Node)
  | look (back : Nat) (negated : Bool) (body : Node)
  | cond (group : Nat) (yes no : Node)

def Flags.folding (f : Flags) : Folding :=
  if !f.ignoreCase then .exact else if f.unicode then .unicode else .ascii

def Anchor.place (f : Flags) : Anchor → Place
  | textStart => .textStart
  | textEnd => .textEnd
  | lineStart => if f.multiline then .lineStart else .textStart
  | lineEnd => if f.multiline then .lineEnd else .lastLineEnd
  | boundary => .boundary (!f.unicode) false
  | nonBoundary => .boundary (!f.unicode) true

/-- How far back a body of this width begins. -/
def Width.distance (w : Width) : Except Refusal Nat :=
  if 0x100000000 ≤ w.lo then .error .tooFarBehind
  else if w.lo ≠ w.hi then .error .variableBehind
  else .ok w.lo

mutual

def Item.node (widths : Nat → Width) (f : Flags) : Item → Except Refusal Node
  | .point n negated => .ok (.point (.single f.folding negated n))
  | .any => .ok (.point (if f.dotAll then .all else .notNewline))
  | .set negated members => .ok (.point (.set f.folding (!f.unicode) negated members))
  | .anchor a => .ok (.place (a.place f))
  | .backref n => .ok (.backref n f.folding)
  | .group none on off body => sequenceNode widths (f.within on off) body
  | .group (some n) on off body => do
    return .capture n (← sequenceNode widths (f.within on off) body)
  | .atomic body => do return .atomic (← sequenceNode widths f body)
  | .look behind negated body => do
    let back ← if behind then (sequenceWidth widths body).distance else .ok 0
    return .look back negated (← sequenceNode widths f body)
  | .cond n yes none => do return .cond n (← sequenceNode widths f yes) .empty
  | .cond n yes (some no) => do
    return .cond n (← sequenceNode widths f yes) (← sequenceNode widths f no)
  | .alt branches => branchesNode widths f branches
  | .rep greed min max body =>
    if f.template then .error (.templateRepetition greed)
    else do return .rep greed min max (← sequenceNode widths f body)

def sequenceNode (widths : Nat → Width) (f : Flags) : List Item → Except Refusal Node
  | [] => .ok .empty
  | item :: rest => do return .seq (← item.node widths f) (← sequenceNode widths f rest)

def branchesNode (widths : Nat → Width) (f : Flags) : List (List Item) → Except Refusal Node
  | [] => .ok .fail
  | branch :: rest => do
    return .alt (← sequenceNode widths f branch) (← branchesNode widths f rest)

end

end Pattern

/-- A text read as a pattern. -/
structure Pattern where
  node : Pattern.Node

namespace Pattern

/-- The flags in force where a pattern names none. -/
def Flags.settled (f : Flags) : Flags := if f.ascii then f else { f with unicode := true }

def compile (t : Text) : Except Refusal Pattern := do
  let reading ← read t
  return ⟨← sequenceNode reading.widths reading.flags.settled reading.items⟩

end Pattern

end TextExpr
