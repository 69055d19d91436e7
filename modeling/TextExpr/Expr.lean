import TextExpr.Operator
import TextExpr.Text.Quoted
import TextExpr.Value

/-! Expression trees. Each node has the span of the text it was read from. -/
namespace TextExpr

inductive Expr where
  | lit (span : Span) (value : Value)
  | var (span : Span) (name : Text)
  | bin (span : Span) (op : BinOp) (left right : Expr)
  | un (span : Span) (op : UnaryOp) (operand : Expr)
  | cond (span : Span) (test yes no : Expr)
  | index (span : Span) (container key : Expr)
  | call (span : Span) (name : Text) (args : List Expr)

namespace Expr

def span : Expr → Span
  | lit s _ => s
  | var s _ => s
  | bin s .. => s
  | un s .. => s
  | cond s .. => s
  | index s .. => s
  | call s .. => s

/-- Literals and variables have no parts. -/
def isTerminal : Expr → Bool
  | lit .. => true
  | var .. => true
  | _ => false

def children : Expr → List Expr
  | lit .. => []
  | var .. => []
  | bin _ _ l r => [l, r]
  | un _ _ e => [e]
  | cond _ c t e => [c, t, e]
  | index _ c k => [c, k]
  | call _ _ args => args

mutual

/-- The names of the variables, from left to right, repetitions kept. -/
def varRefs : Expr → List Text
  | .lit .. => []
  | .var _ name => [name]
  | .bin _ _ l r => varRefs l ++ varRefs r
  | .un _ _ e => varRefs e
  | .cond _ c t e => varRefs c ++ varRefs t ++ varRefs e
  | .index _ c k => varRefs c ++ varRefs k
  | .call _ _ args => varRefsOfAll args

def varRefsOfAll : List Expr → List Text
  | [] => []
  | e :: rest => varRefs e ++ varRefsOfAll rest

end

mutual

/-- The text of a tree: a literal as a quoted string, what has an infix in parentheses. -/
def render : Expr → Text
  | .lit _ v => Quoted.encodeAscii v.text
  | .var _ name => name
  | .bin _ op l r =>
    .char '(' :: render l ++ .char ' ' :: op.symbol ++ .char ' ' :: render r ++ [.char ')']
  | .un _ op e => op.symbol ++ render e
  | .cond _ c t e =>
    Text.ofString "(if " ++ render c ++ Text.ofString " then " ++ render t ++
      Text.ofString " else " ++ render e ++ [.char ')']
  | .index _ c k => render c ++ .char '[' :: render k ++ [.char ']']
  | .call _ name args => name ++ .char '(' :: renderArgs args ++ [.char ')']

def renderArgs : List Expr → Text
  | [] => []
  | [e] => render e
  | e :: rest => render e ++ Text.ofString ", " ++ renderArgs rest

end

mutual

/-- Equal trees: the spans of nodes count, the span inside a literal's value does not. -/
def same : Expr → Expr → Bool
  | .lit s v, .lit s' v' => s = s' && v.same v'
  | .var s n, .var s' n' => s = s' && n = n'
  | .bin s op l r, .bin s' op' l' r' => s = s' && same l l' && op = op' && same r r'
  | .un s op e, .un s' op' e' => s = s' && op = op' && same e e'
  | .cond s c t e, .cond s' c' t' e' => s = s' && same c c' && same t t' && same e e'
  | .index s c k, .index s' c' k' => s = s' && same c c' && same k k'
  | .call s n args, .call s' n' args' => s = s' && n = n' && sameArgs args args'
  | _, _ => false

def sameArgs : List Expr → List Expr → Bool
  | [], [] => true
  | e :: rest, e' :: rest' => same e e' && sameArgs rest rest'
  | _, _ => false

end

end Expr

example : (Expr.call .dummy (Text.ofString "f") [.lit .dummy ⟨[], none⟩, .var .dummy []]).render =
    Text.ofString "f(\"\", )" := by decide +kernel

end TextExpr
