import TextExpr.Double
import TextExpr.Numeral

/-! The decimal forms of a number. `shortest` has the fewest digits that read back;
`plainText` writes them without an exponent, `scientificText` with one far from one,
and `fixedText` rounds the exact value to a number of places, a half to even. -/
namespace TextExpr

/-- `digits * 10 ^ exponent`. -/
structure Decimal where
  digits : Nat
  exponent : Int
  deriving DecidableEq, Repr

namespace Decimal

def stripZeros : Nat → Decimal → Decimal
  | 0, d => d
  | fuel + 1, d =>
    if d.digits ≠ 0 ∧ d.digits % 10 = 0 then stripZeros fuel ⟨d.digits / 10, d.exponent + 1⟩ else d

/-- The same number, its last digit not a zero. -/
def normal (d : Decimal) : Decimal := stripZeros d.digits.log2 d

end Decimal

namespace Magnitude

/-- Digits before the point, less the zeros that follow it in a number below one. -/
def decimalPoint (m : Magnitude) : Int :=
  (Nat.toDigits 10 (m.units * Nat.pow 10 400 / Double.one)).length - (400 : Int)

/-- The two neighbours with `count` digits, the nearer one first, of two as near the even one. -/
def neighbours (m : Magnitude) (count : Nat) : List Decimal :=
  let exponent := m.decimalPoint - count
  let num := if 0 ≤ exponent then m.units else m.units * Nat.pow 10 (-exponent).toNat
  let den := if 0 ≤ exponent then Double.one * Nat.pow 10 exponent.toNat else Double.one
  let below := num / den
  let twice := 2 * (num % den)
  if twice < den ∨ (twice = den ∧ below % 2 = 0)
  then [⟨below, exponent⟩, ⟨below + 1, exponent⟩]
  else [⟨below + 1, exponent⟩, ⟨below, exponent⟩]

def readsBack (m : Magnitude) (d : Decimal) : Bool :=
  Double.ofDecimal false d.digits d.exponent = .finite false m

/-- A unit is 5^1074 * 10^-1074. -/
def exactDecimal (m : Magnitude) : Decimal := ⟨m.units * Nat.pow 5 1074, -1074⟩

def shortest (m : Magnitude) : Decimal :=
  let candidates := (List.range' 1 17).flatMap m.neighbours
  ((candidates.find? m.readsBack).getD m.exactDecimal).normal

/-- The decimal digits of the value times `10 ^ places`, rounded half to even. -/
def scaled (m : Magnitude) (places : Nat) : Nat := divEven (m.units * Nat.pow 10 places) Double.one

end Magnitude

namespace Double

def zeros (n : Nat) : Text := List.replicate n (.char '0')

def signText (negative : Bool) : Text := if negative then [.char '-'] else []

/-- Digits with a point after the first `point` of them, filled up with zeros. -/
def placePoint (digits : Text) (point : Int) : Text :=
  if point ≤ 0 then .char '0' :: .char '.' :: zeros (-point).toNat ++ digits
  else if (digits.length : Int) ≤ point then digits ++ zeros (point.toNat - digits.length)
  else digits.take point.toNat ++ .char '.' :: digits.drop point.toNat

def plainDigits (d : Decimal) : Text :=
  if d.digits = 0 then [.char '0']
  else
    let digits := Numeral.ofNat d.digits
    placePoint digits (digits.length + d.exponent)

/-- The text of a computed number: no exponent and no zero at the end. -/
def plainText : Double → Text
  | nan => Text.ofString "NaN"
  | inf s => signText s ++ Text.ofString "inf"
  | finite s m => signText s ++ plainDigits m.shortest

def exponentText (e : Int) : Text :=
  let digits := Numeral.ofNat e.natAbs
  [.char 'e', .char (if e < 0 then '-' else '+')] ++ zeros (2 - digits.length) ++ digits

/-- A point always stands in a number from 0.0001 up to below 10^16; others have an
exponent of two digits or more. -/
def scientificDigits (d : Decimal) : Text :=
  let digits := Numeral.ofNat d.digits
  let point := digits.length + d.exponent
  if d.digits = 0 then Text.ofString "0.0"
  else if -4 < point ∧ point ≤ 16 then
    let plain := placePoint digits point
    if plain.contains (.char '.') then plain else plain ++ Text.ofString ".0"
  else
    let mantissa := if digits.length ≤ 1 then digits else placePoint digits 1
    mantissa ++ exponentText (point - 1)

/-- The text of a number inside a document. -/
def scientificText : Double → Text
  | nan => Text.ofString "NaN"
  | inf s => signText s ++ Text.ofString "Infinity"
  | finite s m => signText s ++ scientificDigits m.shortest

def fixedDigits (m : Magnitude) (places : Nat) : Text :=
  let digits := Numeral.ofNat (m.scaled places)
  let padded := zeros (places + 1 - digits.length) ++ digits
  if places = 0 then padded
  else padded.take (padded.length - places) ++ .char '.' :: padded.drop (padded.length - places)

/-- The exact value rounded to a number of places. A negative zero keeps its sign. -/
def fixedText (x : Double) (places : Nat) : Text :=
  match x with
  | nan => Text.ofString "NaN"
  | inf s => signText s ++ Text.ofString "inf"
  | finite s m => signText s ++ fixedDigits m places

end Double

example : (Double.ofDecimal false 1 23).scientificText = Text.ofString "1e+23" := by decide +kernel
example : (Double.ofDecimal true 15 (-1)).plainText = Text.ofString "-1.5" := by decide +kernel
example : (Double.ofDecimal false 5 (-324)).scientificText = Text.ofString "5e-324" := by
  decide +kernel
example : (Double.ofDecimal false 2675 (-3)).fixedText 2 = Text.ofString "2.67" := by decide +kernel

end TextExpr
