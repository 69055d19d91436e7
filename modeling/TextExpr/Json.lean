import TextExpr.Double
import TextExpr.Text

/-! Decoded documents. Whole numbers and doubles are told apart, and an object keeps
the order of its members. -/
namespace TextExpr

inductive Json where
  | null
  | bool (b : Bool)
  | int (i : Int)
  | float (x : Double)
  | str (t : Text)
  | list (items : List Json)
  | obj (members : List (Text × Json))

namespace Json

/-- Sets a member: the last value given for a name stands at the name's first place. -/
def setMember {α : Type} (members : List (Text × α)) (name : Text) (value : α) :
    List (Text × α) :=
  match members with
  | [] => [(name, value)]
  | (k, v) :: rest =>
    if k = name then (k, value) :: rest else (k, v) :: setMember rest name value

def member? {α : Type} (members : List (Text × α)) (name : Text) : Option α :=
  (members.find? fun m => m.1 = name).map Prod.snd

end Json

end TextExpr
