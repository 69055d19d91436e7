import TextExpr.Numeral
import TextExpr.Unicode.Printable

/-! A text as it is shown in messages and logs: between single quotes, or double ones
where it holds a single and no double quote, with what is not printable escaped. -/
namespace TextExpr.Shown

def quoteFor (t : Text) : Point :=
  if t.contains (.char '\'') && !t.contains (.char '"') then .char '"' else .char '\''

def escape (n : Nat) : Text :=
  if n < 0x100 then Text.ofString "\\x" ++ Numeral.hex 2 n
  else if n < 0x10000 then Text.ofString "\\u" ++ Numeral.hex 4 n
  else Text.ofString "\\U" ++ Numeral.hex 8 n

def showPoint (quote p : Point) : Text :=
  if p = quote ∨ p = .char '\\' then [.char '\\', p]
  else match p with
    | .char '\t' => Text.ofString "\\t"
    | .char '\n' => Text.ofString "\\n"
    | .char '\r' => Text.ofString "\\r"
    | p => if Unicode.isPrintable p.code then [p] else escape p.code

end Shown

/-- The shown form of a text. -/
def Text.shown (t : Text) : Text :=
  let quote := Shown.quoteFor t
  quote :: t.flatMap (Shown.showPoint quote) ++ [quote]

example : Text.shown (Text.ofString "it's\n\u200b") = Text.ofString "\"it's\\n\\u200b\"" := by
  decide +kernel

end TextExpr
