import TextExpr.Error

/-! What host functions return: the scalars and containers of the host, a value as it
is, and objects that only the host knows. -/
namespace TextExpr

inductive HostValue where
  | null
  | bool (b : Bool)
  | int (i : Int)
  | float (x : Double)
  | str (t : Text)
  | list (items : List HostValue)
  | obj (members : List (Text × HostValue))
  | value (v : Value)
  | foreign (type : Text)

namespace HostValue

/-- Whole numbers of more than 4300 digits have no text. -/
def checkLength (i : Int) : Except Fault Int :=
  if i.natAbs < Nat.pow 10 Numeral.digitLimit then .ok i else .error .longInteger

mutual

/-- The document that a host value is. -/
def toJson : HostValue → Except Fault Json
  | .null => .ok .null
  | .bool b => .ok (.bool b)
  | .int i => return .int (← checkLength i)
  | .float x => .ok (.float x)
  | .str t => .ok (.str t)
  | .list items => return .list (← itemsToJson items)
  | .obj members => return .obj (← membersToJson members)
  | .value _ => .error (.notSerializable (Text.ofString "DynVal"))
  | .foreign type => .error (.notSerializable type)

def itemsToJson : List HostValue → Except Fault (List Json)
  | [] => .ok []
  | item :: rest => return (← toJson item) :: (← itemsToJson rest)

def membersToJson : List (Text × HostValue) → Except Fault (List (Text × Json))
  | [] => .ok []
  | (name, item) :: rest => return (name, ← toJson item) :: (← membersToJson rest)

end

/-- The value of the language that a host value becomes. -/
def toValue : HostValue → Except Fault Value
  | .value v => .ok v
  | .bool b => .ok (.ofBool b)
  | .int i => return .ofText (Numeral.ofInt (← checkLength i))
  | .float x => .ok (.ofDouble x)
  | .str t => .ok (.ofText t)
  | h => return .ofJson (← h.toJson)

/-- The number that a host value is; whole numbers out of range are none. -/
def toDouble? : HostValue → Except Fault (Option Double)
  | .float x => .ok (some x)
  | .bool b => .ok (some (.ofDecimal false b.toNat 0))
  | .int i =>
    match Double.ofDecimal (i < 0) i.natAbs 0 with
    | .inf _ => .error .largeInteger
    | x => .ok (some x)
  | _ => .ok none

mutual

def ofJson : Json → HostValue
  | .null => .null
  | .bool b => .bool b
  | .int i => .int i
  | .float x => .float x
  | .str t => .str t
  | .list items => .list (ofItems items)
  | .obj members => .obj (ofMembers members)

def ofItems : List Json → List HostValue
  | [] => []
  | item :: rest => ofJson item :: ofItems rest

def ofMembers : List (Text × Json) → List (Text × HostValue)
  | [] => []
  | (name, item) :: rest => (name, ofJson item) :: ofMembers rest

end

end HostValue

end TextExpr
