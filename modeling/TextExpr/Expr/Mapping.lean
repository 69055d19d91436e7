import TextExpr.Expr

/-! Rebuilding a tree from its parts. `mapParts` goes one level down; a renaming goes
all the way, and notes the nodes it is handed. -/
namespace TextExpr.Expr

/-- The node with `f` of each part; a literal or a variable is handed to `f` itself. -/
def mapParts {m : Type → Type} [Monad m] (f : Expr → m Expr) : Expr → m Expr
  | .lit s v => f (.lit s v)
  | .var s name => f (.var s name)
  | .bin s op l r => do return .bin s op (← f l) (← f r)
  | .un s op e => do return .un s op (← f e)
  | .cond s c t e => do return .cond s (← f c) (← f t) (← f e)
  | .index s c k => do return .index s (← f c) (← f k)
  | .call s name args => do return .call s name (← args.mapM f)

/-- Computations that note nodes, the first one first. -/
abbrev Noting := StateM (List Expr)

def note (e : Expr) : Noting Unit := modify (· ++ [e])

mutual

/-- Notes a node, then renames its variables, going down through its parts. -/
def renameNoting (rename : Text → Text) : Expr → Noting Expr
  | .lit s v => do
    note (.lit s v)
    return .lit s v
  | .var s name => do
    note (.var s name)
    return .var s (rename name)
  | .bin s op l r => do
    note (.bin s op l r)
    return .bin s op (← renameNoting rename l) (← renameNoting rename r)
  | .un s op e => do
    note (.un s op e)
    return .un s op (← renameNoting rename e)
  | .cond s c t e => do
    note (.cond s c t e)
    return .cond s (← renameNoting rename c) (← renameNoting rename t) (← renameNoting rename e)
  | .index s c k => do
    note (.index s c k)
    return .index s (← renameNoting rename c) (← renameNoting rename k)
  | .call s name args => do
    note (.call s name args)
    return .call s name (← renameAllNoting rename args)

def renameAllNoting (rename : Text → Text) : List Expr → Noting (List Expr)
  | [] => return []
  | e :: rest => do return (← renameNoting rename e) :: (← renameAllNoting rename rest)

end

/-- The renamed tree, and the nodes handed on while its parts are renamed. -/
def renameParts (rename : Text → Text) (e : Expr) : Expr × List Expr :=
  ((e.mapParts (renameNoting rename)).run [])

end TextExpr.Expr
