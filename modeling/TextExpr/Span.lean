import TextExpr.Numeral

/-! Places in a source text, for diagnostics alone. -/
namespace TextExpr

/-- The half-open range from `lo` to `hi` of a file. -/
structure Span where
  lo : Int
  hi : Int
  file : Int := 0
  deriving DecidableEq, Repr

namespace Span

/-- The span of a node that was not read from a text. -/
def dummy : Span := ⟨0, 0, 0⟩

def text (s : Span) : Text := Numeral.ofInt s.lo ++ Text.ofString ".." ++ Numeral.ofInt s.hi

end Span

example : (Span.mk 3 7 1).text = Text.ofString "3..7" := by decide +kernel

end TextExpr
