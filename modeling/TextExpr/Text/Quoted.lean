import TextExpr.Numeral

/-! Texts between double quotes. `encode` writes every point above the controls as it
is; `encodeAscii` writes those outside printable ASCII as escapes, a point above
0xFFFF as a pair of surrogates. -/
namespace TextExpr.Quoted

def escapeCode (n : Nat) : Text := Text.ofString "\\u" ++ Numeral.hex 4 n

/-- The two-character escapes. -/
def shortEscape? : Point → Option Char
  | .char '"' => some '"'
  | .char '\\' => some '\\'
  | .char '\n' => some 'n'
  | .char '\r' => some 'r'
  | .char '\t' => some 't'
  | .char '\x08' => some 'b'
  | .char '\x0c' => some 'f'
  | _ => none

def encodePoint (p : Point) : Text :=
  match shortEscape? p with
  | some c => [.char '\\', .char c]
  | none => if p.code < 0x20 then escapeCode p.code else [p]

def encodeAsciiPoint (p : Point) : Text :=
  match shortEscape? p with
  | some c => [.char '\\', .char c]
  | none =>
    if 0x20 ≤ p.code ∧ p.code < 0x7F then [p]
    else if p.code < 0x10000 then escapeCode p.code
    else
      let offset := p.code - 0x10000
      escapeCode (0xD800 + offset / 1024) ++ escapeCode (0xDC00 + offset % 1024)

def quote (body : Text) : Text := .char '"' :: body ++ [.char '"']

def encode (t : Text) : Text := quote (t.flatMap encodePoint)

def encodeAscii (t : Text) : Text := quote (t.flatMap encodeAsciiPoint)

example : encodeAscii (Text.ofString "a\n😀") = Text.ofString "\"a\\n\\ud83d\\ude00\"" := by
  decide +kernel

end TextExpr.Quoted
