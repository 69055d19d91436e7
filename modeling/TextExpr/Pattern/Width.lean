import TextExpr.Pattern.Syntax

/-! How many points a sequence can match: the bounds that decide whether it may stand in
a lookbehind. Bounds above 2^64 are not told apart. -/
namespace TextExpr.Pattern

structure Width where
  lo : Nat
  hi : Nat
  deriving DecidableEq, Repr

namespace Width

def limit : Nat := 0x10000000000000000

def zero : Width := ⟨0, 0⟩

def one : Width := ⟨1, 1⟩

def add (v w : Width) : Width := ⟨v.lo + w.lo, v.hi + w.hi⟩

def either (v w : Width) : Width := ⟨min v.lo w.lo, max v.hi w.hi⟩

def capped (w : Width) : Width := ⟨min w.lo limit, min w.hi limit⟩

def repeated (w : Width) (least : Nat) : Option Nat → Width
  | some most => ⟨w.lo * least, w.hi * most⟩
  | none => ⟨w.lo * least, if w.hi = 0 then 0 else limit⟩

end Width

mutual

/-- `groups` gives the widths of the groups already closed. -/
def Item.width (groups : Nat → Width) : Item → Width
  | .point .. => .one
  | .any => .one
  | .set .. => .one
  | .anchor _ => .zero
  | .look .. => .zero
  | .backref n => groups n
  | .group _ _ _ body => sequenceWidth groups body
  | .atomic body => sequenceWidth groups body
  | .cond _ yes none => ⟨0, (sequenceWidth groups yes).hi⟩
  | .cond _ yes (some no) => (sequenceWidth groups yes).either (sequenceWidth groups no)
  | .alt branches => branchesWidth groups branches
  | .rep _ least most body => (sequenceWidth groups body).repeated least most

def sequenceWidth (groups : Nat → Width) : List Item → Width
  | [] => .zero
  | item :: rest => ((item.width groups).add (sequenceWidth groups rest)).capped

def branchesWidth (groups : Nat → Width) : List (List Item) → Width
  | [] => ⟨Width.limit, 0⟩
  | branch :: rest => (sequenceWidth groups branch).either (branchesWidth groups rest)

end

example : sequenceWidth (fun _ => .zero) [.any, .rep .greedy 2 (some 3) [.any]] = ⟨3, 4⟩ := by
  decide

end TextExpr.Pattern
