import TextExpr.Json.Reader
import TextExpr.Text.Shown
import TextExpr.Value

/-! What can go wrong. An evaluation error belongs to the language, and wrappers tell
where it arose; a fault lies outside the language and passes through untouched. -/
namespace TextExpr

/-- Why a text that looks like a number or a document is none. -/
inductive Cause where
  | number (r : Numeral.Refusal)
  | document (r : Json.Refusal)
  | other (t : Text)
  deriving DecidableEq, Repr

def Cause.message : Cause → Text
  | number .malformed => []
  | number (.tooManyDigits count) => Numeral.limitMessage count
  | number .outOfRange => Text.ofString "number too large to fit in target type"
  | document r => r.message
  | other t => t

inductive EvalError where
  | noVariablesAllowed (name : Text)
  | invalidRegex (reason : Text)
  | unresolvedVariable (name : Text)
  | conversion (value : Value) (target : Text) (cause : Option Cause)
  | wrongArgCount (function : Text)
  | unknownFunction (name : Text)
  | unknownVariable (name : Text)
  | cannotIndex (value : Text)
  | spanned (span : Span) (inner : EvalError)
  deriving DecidableEq, Repr

namespace EvalError

def message : EvalError → Text
  | noVariablesAllowed name =>
    Text.ofString "Tried to reference variable `" ++ name ++
      Text.ofString "`, but we cannot access variables here"
  | invalidRegex reason => Text.ofString "Invalid regex: " ++ reason
  | unresolvedVariable name =>
    Text.ofString "got unresolved variable `" ++ name ++ Text.ofString "`"
  | conversion value target cause =>
    Text.ofString "Failed to turn `" ++ value.text ++ Text.ofString "` into a value of type " ++
      target ++
      match cause with
      | some c => Text.ofString ": " ++ c.message
      | none => []
  | wrongArgCount function =>
    Text.ofString "Incorrect number of arguments given to function: " ++ function
  | unknownFunction name => Text.ofString "Unknown function " ++ name
  | unknownVariable name => Text.ofString "Unknown variable " ++ name
  | cannotIndex value => Text.ofString "Unable to index into value " ++ value
  | spanned _ inner => inner.message

def span? : EvalError → Option Span
  | spanned s _ => some s
  | conversion value _ _ => value.span
  | _ => none

/-- Every span along the wrappers, the outermost first. -/
def spans : EvalError → List Span
  | spanned s inner => s :: inner.spans
  | conversion value _ _ => value.span.toList
  | _ => []

/-- The spans of the wrappers alone. -/
def wrappers : EvalError → List Span
  | spanned s inner => s :: inner.wrappers
  | _ => []

/-- The error inside all wrappers. -/
def root : EvalError → EvalError
  | spanned _ inner => inner.root
  | e => e

def within (e : EvalError) (s : Span) : EvalError := spanned s e

end EvalError

/-- What ends a run outside the language. -/
inductive Fault where
  | unknownBinaryOp (symbol : Text)
  | unknownUnaryOp (symbol : Text)
  | missingExpression
  | notSerializable (type : Text)
  | patternFlags
  | digitLimit (count : Nat)
  | longInteger
  | largeInteger
  | indexOutOfRange
  | crash (message : Text)
  | builtinName (name : Text)
  | registeredName (name : Text)
  | notAnOperator (symbol kind : Text)
  deriving DecidableEq, Repr

def Fault.message : Fault → Text
  | unknownBinaryOp symbol => Text.ofString "Unknown binary op: " ++ symbol
  | unknownUnaryOp symbol => Text.ofString "Unknown unary op: " ++ symbol
  | missingExpression => Text.ofString "Unknown expression type: NoneType"
  | notSerializable type =>
    Text.ofString "Object of type " ++ type ++ Text.ofString " is not JSON serializable"
  | patternFlags => Text.ofString "ASCII and UNICODE flags are incompatible"
  | digitLimit count => Numeral.limitMessage count
  | longInteger =>
    Text.ofString "Exceeds the limit (4300 digits) for integer string conversion; " ++
      Text.ofString "use sys.set_int_max_str_digits() to increase the limit"
  | largeInteger => Text.ofString "int too large to convert to float"
  | indexOutOfRange => Text.ofString "list index out of range"
  | crash message => message
  | builtinName name =>
    Text.ofString "Function " ++ name ++ Text.ofString " is a built-in and cannot be replaced"
  | registeredName name =>
    Text.ofString "Function " ++ name ++ Text.ofString " already registered"
  | notAnOperator symbol kind =>
    symbol.shown ++ Text.ofString " is not a valid " ++ kind

/-- How a run fails. `reported` is an error given in answer to another failure. -/
inductive Failure where
  | error (e : EvalError)
  | reported (e : EvalError) (earlier : Failure)
  | fault (f : Fault)
  deriving DecidableEq, Repr

namespace Failure

def error? : Failure → Option EvalError
  | error e => some e
  | reported e _ => some e
  | fault _ => none

/-- The error with a span around it; a fault takes none. -/
def locate (s : Span) : Failure → Failure
  | fault f => fault f
  | error e => reported (e.within s) (error e)
  | reported e earlier => reported (e.within s) (reported e earlier)

end Failure

end TextExpr
