import TextExpr.Error

/-! Operators and the symbols they are written with. -/
namespace TextExpr

/-- An `undeclared` operator is one of no meaning, kept for its symbol. -/
inductive BinOp where
  | equals
  | notEquals
  | greaterThan
  | lessThan
  | and
  | or
  | plus
  | minus
  | times
  | div
  | mod
  | elvis
  | regexMatch
  | undeclared (symbol : Text)
  deriving DecidableEq, Repr

inductive UnaryOp where
  | not
  | undeclared (symbol : Text)
  deriving DecidableEq, Repr

namespace BinOp

/-- The declared operators, with their names. -/
def declared : List (String × BinOp) :=
  [("EQUALS", equals), ("NOT_EQUALS", notEquals), ("GREATER_THAN", greaterThan),
    ("LESS_THAN", lessThan), ("AND", and), ("OR", or), ("PLUS", plus), ("MINUS", minus),
    ("TIMES", times), ("DIV", div), ("MOD", mod), ("ELVIS", elvis),
    ("REGEX_MATCH", regexMatch)]

def symbol : BinOp → Text
  | equals => Text.ofString "=="
  | notEquals => Text.ofString "!="
  | greaterThan => Text.ofString ">"
  | lessThan => Text.ofString "<"
  | and => Text.ofString "&&"
  | or => Text.ofString "||"
  | plus => Text.ofString "+"
  | minus => Text.ofString "-"
  | times => Text.ofString "*"
  | div => Text.ofString "/"
  | mod => Text.ofString "%"
  | elvis => Text.ofString "?:"
  | regexMatch => Text.ofString "=~"
  | undeclared s => s

def isDeclared : BinOp → Bool
  | undeclared _ => false
  | _ => true

def ofSymbol? (s : Text) : Option (String × BinOp) := declared.find? fun d => d.2.symbol = s

/-- The declared operator with a symbol, or else an undeclared one. -/
def ofSymbol (s : Text) : BinOp := ((ofSymbol? s).map Prod.snd).getD (undeclared s)

def named (s : Text) : Except Fault (String × BinOp) :=
  match ofSymbol? s with
  | some d => .ok d
  | none => .error (.notAnOperator s (Text.ofString "BinOp"))

end BinOp

namespace UnaryOp

def declared : List (String × UnaryOp) := [("NOT", not)]

def symbol : UnaryOp → Text
  | not => Text.ofString "!"
  | undeclared s => s

def isDeclared : UnaryOp → Bool
  | undeclared _ => false
  | not => true

def ofSymbol? (s : Text) : Option (String × UnaryOp) := declared.find? fun d => d.2.symbol = s

def ofSymbol (s : Text) : UnaryOp := ((ofSymbol? s).map Prod.snd).getD (undeclared s)

def named (s : Text) : Except Fault (String × UnaryOp) :=
  match ofSymbol? s with
  | some d => .ok d
  | none => .error (.notAnOperator s (Text.ofString "UnaryOp"))

end UnaryOp

theorem BinOp.ofSymbol_symbol {op : BinOp} (h : op.isDeclared) : ofSymbol op.symbol = op := by
  cases op with
  | undeclared s => simp [isDeclared] at h
  | _ => rfl

end TextExpr
