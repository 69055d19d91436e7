import TextExpr.Double.Decimal
import TextExpr.Json.Printer
import TextExpr.Span

/-! Values: a text, and the span it came from if it has one. -/
namespace TextExpr

structure Value where
  text : Text
  span : Option Span := none
  deriving DecidableEq, Repr

namespace Value

/-- Equal as values: the span does not count. -/
def same (v w : Value) : Bool := v.text = w.text

def ofText (t : Text) : Value := ⟨t, none⟩

def ofBool (b : Bool) : Value := .ofText (Text.ofString (if b then "true" else "false"))

def ofDouble (x : Double) : Value := .ofText x.plainText

/-- A string is unwrapped; any other document is its compact text. -/
def ofJson : Json → Value
  | .str t => .ofText t
  | j => .ofText j.print

def withSpan (v : Value) (s : Span) : Value := { v with span := some s }

def isEmpty (v : Value) : Bool := v.text = []

end Value

end TextExpr
