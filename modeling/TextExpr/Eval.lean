import TextExpr.Expr.Substitution
import TextExpr.Function
import TextExpr.Settings

/-! Evaluation. Operands are evaluated from left to right before an operator looks at
them; of a conditional only the branch that is taken is evaluated. -/
namespace TextExpr

structure Context where
  env : Env
  source : Option Source
  trace : Bool

/-- A sum of numbers, and of anything else the texts one after the other. -/
def addValues (left right : Value) : Value :=
  match left.asDouble, right.asDouble with
  | .ok x, .ok y => .ofDouble (x.add y)
  | _, _ => .ofText (left.text ++ right.text)

/-- Both operands are read in one way, the left one first, and `f` makes a value of the two. -/
def readBoth {α : Type} (read : Value → Except EvalError α) (left right : Value)
    (f : α → α → Value) : Except Failure Value :=
  Except.mapError .error do return f (← read left) (← read right)

def matchText (text pattern : Value) : Except Failure Value := do
  return .ofBool ((← compilePattern pattern.text).isFoundIn text.text)

def applyBinary (op : BinOp) (left right : Value) : Except Failure Value :=
  match op with
  | .equals => .ok (.ofBool (left.same right))
  | .notEquals => .ok (.ofBool !(left.same right))
  | .and => readBoth Value.asBool left right fun a b => .ofBool (a && b)
  | .or => readBoth Value.asBool left right fun a b => .ofBool (a || b)
  | .plus => .ok (addValues left right)
  | .minus => readBoth Value.asDouble left right fun x y => .ofDouble (x.sub y)
  | .times => readBoth Value.asDouble left right fun x y => .ofDouble (x.mul y)
  | .div => readBoth Value.asDouble left right fun x y => .ofDouble (x.div y)
  | .mod => readBoth Value.asDouble left right fun x y => .ofDouble (x.rem y)
  | .greaterThan => readBoth Value.asDouble left right fun x y => .ofBool (x.gt y)
  | .lessThan => readBoth Value.asDouble left right fun x y => .ofBool (x.lt y)
  | .elvis => .ok (if left.isEmpty then right else left)
  | .regexMatch => matchText left right
  | .undeclared symbol => .error (.fault (.unknownBinaryOp symbol))

def applyUnary (op : UnaryOp) (operand : Value) : Except Failure Value :=
  match op with
  | .not => (operand.asBool.map fun b => Value.ofBool !b).mapError .error
  | .undeclared symbol => .error (.fault (.unknownUnaryOp symbol))

/-- The item at a position of a list; outside it, and before its start, null. -/
def itemAt (items : List Json) (i : Int) : Json :=
  if i < 0 then .null else (items[i.toNat]?).getD .null

/-- The member with the key, else the one with the key's number written plainly. -/
def memberAt (members : List (Text × Json)) (key : Value) : Json :=
  match Json.member? members key.text with
  | some j => j
  | none =>
    match key.asI32 with
    | .ok i => (Json.member? members (Numeral.ofInt i)).getD .null
    | .error _ => .null

def indexValue (span : Span) (container key : Value) : Except EvalError Value := do
  match ← container.asJson with
  | .list items => return .ofJson (itemAt items (← key.asI32))
  | .obj members => return .ofJson (memberAt members key)
  | _ => .error ((EvalError.cannotIndex container.text).within span)

/-- The value of a node at the node's span, with a trace if one is asked for. -/
def finish (ctx : Context) (node : Expr) (v : Value) : Run Value := do
  if ctx.trace then Run.write (.evaluated node v.text)
  return v.withSpan node.span

namespace Expr

mutual

def eval (ctx : Context) : Expr → Run Value
  | .lit s v => finish ctx (.lit s v) v
  | .var s name =>
    match ctx.env name with
    | some v => finish ctx (.var s name) v
    | none => Run.fail (.error ((EvalError.unresolvedVariable name).within s))
  | .bin s op l r => do
    let left ← eval ctx l
    let right ← eval ctx r
    finish ctx (.bin s op l r) (← ⟨[], applyBinary op left right⟩)
  | .un s op e => do
    let operand ← eval ctx e
    finish ctx (.un s op e) (← ⟨[], applyUnary op operand⟩)
  | .cond s c t e => do
    let test ← Run.ofExcept (← eval ctx c).asBool
    let v ← if test then eval ctx t else eval ctx e
    finish ctx (.cond s c t e) v
  | .index s c k => do
    let container ← eval ctx c
    let key ← eval ctx k
    finish ctx (.index s c k) (← Run.ofExcept (indexValue s container key))
  | .call s name args => do
    let values ← evalAll ctx args
    let v ← (callFunction name values ctx.source).mapFailure (.locate s)
    finish ctx (.call s name args) v

def evalAll (ctx : Context) : List Expr → Run (List Value)
  | [] => return []
  | e :: rest => do return (← eval ctx e) :: (← evalAll ctx rest)

end

end Expr

/-- An expression that is not there is a fault. -/
def Expr.require : Option Expr → Run Expr
  | some e => return e
  | none => Run.fail (.fault .missingExpression)

/-- The value of an expression where variables have values. -/
def evaluate (e : Expr) (env : Env) (source : Option Source) (settings : Settings) : Run Value :=
  e.eval ⟨env, source, settings.trace⟩

/-- Without variables a name that a host function does not know is reported as a variable
that is not allowed, at the span where the failure is. -/
def forbidVariables (failure : Failure) : Failure :=
  match failure.error? with
  | none => failure
  | some e =>
    match e.root with
    | .unknownVariable name =>
      let error := EvalError.noVariablesAllowed name
      .reported (match e.span? with
        | some s => error.within s
        | none => error) failure
    | _ => failure

/-- The value of an expression where variables have none. -/
def evaluateNoVars (e : Expr) (source : Option Source) (settings : Settings) : Run Value :=
  (evaluate e .empty source settings).mapFailure forbidVariables

end TextExpr
