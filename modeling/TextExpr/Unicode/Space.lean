import TextExpr.Unicode.Ranges

/-! White space: the bidirectional types WS, B and S, and the category Zs. -/
namespace TextExpr.Unicode

def spaceRanges : List (Nat × Nat) := [
  (0x9, 0xD), (0x1C, 0x20), (0x85, 0x85), (0xA0, 0xA0), (0x1680, 0x1680), (0x2000, 0x200A),
  (0x2028, 0x2029), (0x202F, 0x202F), (0x205F, 0x205F), (0x3000, 0x3000)]

def isSpace (n : Nat) : Bool := inRanges spaceRanges n

example : isSpace 0x1C ∧ isSpace 0x85 ∧ ¬ isSpace 0x200B := by decide

end TextExpr.Unicode
