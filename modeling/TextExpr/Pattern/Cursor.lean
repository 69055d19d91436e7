import TextExpr.Pattern.Refusal

/-! A pattern is read token by token, one token ahead: a backslash and the point after
it are one token. -/
namespace TextExpr.Pattern

inductive Token where
  | plain (p : Point)
  | escape (p : Point)
  deriving DecidableEq, Repr

namespace Token

def width : Token → Nat
  | plain _ => 1
  | escape _ => 2

def text : Token → Text
  | plain p => [p]
  | escape p => [.char '\\', p]

end Token

/-- `position` is the place of `next`, and `rest` what follows it. -/
structure Cursor where
  position : Nat
  next : Option Token
  rest : Text

namespace Cursor

/-- The cursor at `position`, with `rest` still to be read. -/
def at? (position : Nat) : Text → Except Refusal Cursor
  | [] => .ok ⟨position, none, []⟩
  | [.char '\\'] => .error (.malformed .escapeAtEnd position)
  | .char '\\' :: p :: rest => .ok ⟨position, some (.escape p), rest⟩
  | p :: rest => .ok ⟨position, some (.plain p), rest⟩

def advance (c : Cursor) : Except Refusal Cursor :=
  at? (c.position + (c.next.map Token.width).getD 0) c.rest

end Cursor

end TextExpr.Pattern
