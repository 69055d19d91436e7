/-! Tables of code points: inclusive ranges in ascending order. -/
namespace TextExpr.Unicode

def inRanges : List (Nat × Nat) → Nat → Bool
  | [], _ => false
  | (lo, hi) :: rest, n => if n < lo then false else if n ≤ hi then true else inRanges rest n

end TextExpr.Unicode
