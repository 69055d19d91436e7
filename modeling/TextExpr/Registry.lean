import TextExpr.Function
import TextExpr.Value.Host

/-! Registries of host functions. They keep the order in which functions were added, and
list the names in the order of their code points. -/
namespace TextExpr

structure Registry (φ : Type) where
  entries : List (Text × φ)

namespace Registry

variable {φ : Type}

def empty : Registry φ := ⟨[]⟩

instance : Membership Text (Registry φ) := ⟨fun r name => name ∈ r.entries.map Prod.fst⟩

instance (name : Text) (r : Registry φ) : Decidable (name ∈ r) :=
  inferInstanceAs (Decidable (name ∈ r.entries.map Prod.fst))

def lookup (r : Registry φ) (name : Text) : Option φ := r.entries.lookup name

def has (r : Registry φ) (name : Text) : Bool := decide (name ∈ r)

def names (r : Registry φ) : List Text :=
  (r.entries.map Prod.fst).mergeSort fun a b => !b.precedes a

/-- What a loop over the registry goes through. -/
def toList (r : Registry φ) : List Text := r.names

def size (r : Registry φ) : Nat := r.entries.length

/-- Adds a function; a name is given once, and never that of a built-in. -/
def register (r : Registry φ) (name : Text) (f : φ) : Except Fault (Registry φ) :=
  if name ∈ Builtin.names then .error (.builtinName name)
  else if name ∈ r then .error (.registeredName name)
  else .ok ⟨r.entries ++ [(name, f)]⟩

/-- Adds functions in order up to the first that is refused. -/
def registerAll (r : Registry φ) : List (Text × φ) → Registry φ × Option Fault
  | [] => (r, none)
  | (name, f) :: rest =>
    match r.register name f with
    | .ok r => registerAll r rest
    | .error fault => (r, some fault)

/-- The same names with `f` of what they stand for. -/
def map {ψ : Type} (f : φ → ψ) (r : Registry φ) : Registry ψ :=
  ⟨r.entries.map fun entry => (entry.1, f entry.2)⟩

/-- The registry as it is shown in logs. -/
def shown (r : Registry φ) : Text :=
  Text.ofString "FunctionRegistry([" ++
    List.intercalate (Text.ofString ", ") (r.names.map Text.shown) ++ Text.ofString "])"

/-- A source that defines what is registered; a result of the host becomes a value. -/
def source (r : Registry (List Value → Run HostValue)) : Source where
  shown := r.shown
  run name args :=
    match r.lookup name with
    | none => pure none
    | some f => do
      let v ← f args
      return some (← Run.ofFaulty v.toValue)

end Registry

end TextExpr
