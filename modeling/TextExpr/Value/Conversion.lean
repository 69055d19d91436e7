import TextExpr.Double.Reading
import TextExpr.Error

/-! Reading a value as a truth value, a number or a document. -/
namespace TextExpr.Value

def asBool (v : Value) : Except EvalError Bool :=
  if v.text = Text.ofString "true" then .ok true
  else if v.text = Text.ofString "false" then .ok false
  else .error (.conversion v (Text.ofString "bool") none)

def asDouble (v : Value) : Except EvalError Double :=
  match Double.read? v.text with
  | some x => .ok x
  | none => .error (.conversion v (Text.ofString "f64") none)

def asI32 (v : Value) : Except EvalError Int :=
  match Numeral.readI32 v.text with
  | .ok i => .ok i
  | .error .malformed => .error (.conversion v (Text.ofString "i32") none)
  | .error r => .error (.conversion v (Text.ofString "i32") (some (.number r)))

def asJson (v : Value) : Except EvalError Json :=
  match Json.read v.text with
  | .ok j => .ok j
  | .error r => .error (.conversion v (Text.ofString "json") (some (.document r)))

end TextExpr.Value
