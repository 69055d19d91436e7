import TextExpr.Expr

/-! Environments, and putting the values of variables into a tree. -/
namespace TextExpr

/-- What each name is bound to. -/
abbrev Env := Text → Option Value

namespace Env

def empty : Env := fun _ => none

def ofList (bindings : List (Text × Value)) : Env := fun name => bindings.lookup name

end Env

namespace Expr

mutual

/-- Every variable replaced by a literal of its value, at its span. The first name that
is not bound, from left to right, is refused. -/
def resolve (env : Env) : Expr → Except EvalError Expr
  | .lit s v => .ok (.lit s v)
  | .var s name =>
    match env name with
    | some v => .ok (.lit s v)
    | none => .error ((EvalError.unknownVariable name).within s)
  | .bin s op l r => do return .bin s op (← resolve env l) (← resolve env r)
  | .un s op e => do return .un s op (← resolve env e)
  | .cond s c t e => do return .cond s (← resolve env c) (← resolve env t) (← resolve env e)
  | .index s c k => do return .index s (← resolve env c) (← resolve env k)
  | .call s name args => do return .call s name (← resolveAll env args)

def resolveAll (env : Env) : List Expr → Except EvalError (List Expr)
  | [] => .ok []
  | e :: rest => do return (← resolve env e) :: (← resolveAll env rest)

end

end Expr

end TextExpr
