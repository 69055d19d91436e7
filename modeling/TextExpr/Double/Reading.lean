import TextExpr.Double
import TextExpr.Numeral

/-! Number texts: a sign or none, then digits with a point or none and an exponent or
none, or one of the words inf, infinity and nan in any case. ASCII alone counts. -/
namespace TextExpr.Double

def lowerAscii : Point → Point
  | .char c => .char c.toLower
  | p => p

/-- An exponent part that fills the whole text. -/
def readExponent? : Text → Option Int
  | [] => some 0
  | p :: rest =>
    if p = .char 'e' ∨ p = .char 'E' then
      let (negative, digits) := Numeral.splitSign rest
      if digits.isEmpty || !digits.all Point.isDigit then none
      else some (Numeral.signed negative (Numeral.value digits))
    else none

/-- The fraction digits after a point, or none, and what follows. -/
def splitFraction : Text → Text × Text
  | .char '.' :: rest => rest.span Point.isDigit
  | t => ([], t)

def readUnsigned? (negative : Bool) (t : Text) : Option Double :=
  let word := t.map lowerAscii
  if word = Text.ofString "inf" ∨ word = Text.ofString "infinity" then some (.inf negative)
  else if word = Text.ofString "nan" then some .nan
  else
    let (whole, afterWhole) := t.span Point.isDigit
    let (fraction, rest) := splitFraction afterWhole
    if whole.isEmpty && fraction.isEmpty then none
    else (readExponent? rest).map fun e =>
      ofDecimal negative (Numeral.value (whole ++ fraction)) (e - fraction.length)

/-- The number that a text stands for, correctly rounded. -/
def read? (t : Text) : Option Double :=
  let (negative, rest) := Numeral.splitSign t
  readUnsigned? negative rest

example : read? (Text.ofString "-.5e1") = some (ofDecimal true 5 0) := by decide +kernel
example : read? (Text.ofString "1.") = some (ofDecimal false 1 0) := by decide +kernel
example : read? (Text.ofString ".") = none ∧ read? (Text.ofString "1e") = none := by decide +kernel

end TextExpr.Double
