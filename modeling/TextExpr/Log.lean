import TextExpr.Expr

/-! What a run says while it goes on. -/
namespace TextExpr

inductive Entry where
  /-- A node was evaluated to a text. -/
  | evaluated (node : Expr) (result : Text)
  /-- A source of functions, shown as `source`, does not define a name. -/
  | undefined (source name : Text)
  /-- The setting for traces was given a word of no meaning. -/
  | unknownSetting (word : Text)

inductive Level where
  | debug
  | warning
  deriving DecidableEq, Repr

inductive Channel where
  | evaluation
  | functions
  | settings
  deriving DecidableEq, Repr

namespace Entry

def level : Entry → Level
  | evaluated .. => .debug
  | undefined .. => .debug
  | unknownSetting _ => .warning

def channel : Entry → Channel
  | evaluated .. => .evaluation
  | undefined .. => .functions
  | unknownSetting _ => .settings

def message : Entry → Text
  | evaluated node result =>
    node.render ++ Text.ofString " @ " ++ node.span.text ++ Text.ofString " => " ++ result.shown
  | undefined source name =>
    Text.ofString "Function source " ++ source ++ Text.ofString " does not define " ++ name ++
      Text.ofString "()"
  | unknownSetting word =>
    Text.ofString "Unknown SIMPLEXPR_TRACE value '" ++ word ++
      Text.ofString "'. Treating it as disabled."

end Entry

/-- A computation that writes entries and ends in a result or a failure. What was
written before a failure stays. -/
structure Run (α : Type) where
  log : List Entry
  outcome : Except Failure α

namespace Run

protected def pure {α : Type} (a : α) : Run α := ⟨[], .ok a⟩

protected def bind {α β : Type} (r : Run α) (f : α → Run β) : Run β :=
  match r.outcome with
  | .ok a => ⟨r.log ++ (f a).log, (f a).outcome⟩
  | .error e => ⟨r.log, .error e⟩

instance : Monad Run where
  pure := Run.pure
  bind := Run.bind

def fail {α : Type} (e : Failure) : Run α := ⟨[], .error e⟩

def write (entry : Entry) : Run Unit := ⟨[entry], .ok ()⟩

/-- The same computation with `f` of the failure it ends in. -/
def mapFailure {α : Type} (f : Failure → Failure) (r : Run α) : Run α :=
  ⟨r.log, r.outcome.mapError f⟩

/-- A computation of the language, which writes nothing. -/
def ofExcept {α : Type} : Except EvalError α → Run α
  | .ok a => .pure a
  | .error e => fail (.error e)

def ofFaulty {α : Type} : Except Fault α → Run α
  | .ok a => .pure a
  | .error f => fail (.fault f)

end Run

end TextExpr
