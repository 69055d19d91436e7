import TextExpr.Log
import TextExpr.Pattern.Search
import TextExpr.Value.Conversion

/-! Calling functions by name: the built-in ones first, then those of the host. -/
namespace TextExpr

/-- What the host defines. A name it does not define gives `none`. -/
structure Source where
  shown : Text
  run : Text → List Value → Run (Option Value)

/-- A pattern that is refused is an error of the language, but for flags that exclude
each other and for bounds of too many digits. -/
def compilePattern (t : Text) : Except Failure Pattern :=
  match Pattern.compile t with
  | .ok p => .ok p
  | .error .flagConflict => .error (.fault .patternFlags)
  | .error (.tooManyDigits count) => .error (.fault (.digitLimit count))
  | .error r => .error (.error (.invalidRegex (r.message t)))

namespace Builtin

def roundName : Text := Text.ofString "round"

def replaceName : Text := Text.ofString "replace"

def names : List Text := [replaceName, roundName]

/-- The number with as many places as the second argument says, none if it is negative. -/
def round : List Value → Except Failure Value
  | [number, places] =>
    match number.asDouble, places.asI32 with
    | .error e, _ => .error (.error e)
    | .ok _, .error e => .error (.error e)
    | .ok x, .ok n => .ok (.ofText (x.fixedText n.toNat))
  | _ => .error (.error (.wrongArgCount roundName))

/-- The subject with every match of the pattern replaced, literally. -/
def replace : List Value → Except Failure Value
  | [subject, pattern, replacement] =>
    match compilePattern pattern.text with
    | .error e => .error e
    | .ok p => .ok (.ofText (p.replaceAll subject.text replacement.text))
  | _ => .error (.error (.wrongArgCount replaceName))

def find? (name : Text) : Option (List Value → Except Failure Value) :=
  if name = roundName then some round
  else if name = replaceName then some replace
  else none

end Builtin

def callHost (name : Text) (args : List Value) : Option Source → Run Value
  | none => Run.fail (.error (.unknownFunction name))
  | some source => do
    match ← source.run name args with
    | some v => return v
    | none => do
      Run.write (.undefined source.shown name)
      Run.fail (.error (.unknownFunction name))

def callFunction (name : Text) (args : List Value) (source : Option Source) : Run Value :=
  match Builtin.find? name with
  | some f => ⟨[], f args⟩
  | none => callHost name args source

end TextExpr
