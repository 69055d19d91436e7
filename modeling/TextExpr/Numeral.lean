import TextExpr.Text

/-! Whole numbers as text. At most 4300 digits are converted, leading zeros
included; the same limit holds in both directions. -/
namespace TextExpr.Numeral

def ofNat (n : Nat) : Text := (Nat.toDigits 10 n).map .char

def ofInt : Int → Text
  | .ofNat n => ofNat n
  | .negSucc n => .char '-' :: ofNat (n + 1)

/-- Lower-case base sixteen, with zeros in front up to `width`. -/
def hex (width n : Nat) : Text :=
  let digits := Nat.toDigits 16 n
  List.replicate (width - digits.length) (.char '0') ++ digits.map .char

def value (digits : Text) : Nat := digits.foldl (fun n p => n * 10 + p.digitValue) 0

def hexValue (digits : Text) : Nat :=
  digits.foldl (fun n p => n * 16 + p.hexValue?.getD 0) 0

/-- Whether the sign is a minus, and the text after the sign. -/
def splitSign : Text → Bool × Text
  | .char '-' :: rest => (true, rest)
  | .char '+' :: rest => (false, rest)
  | t => (false, t)

def signed (negative : Bool) (n : Nat) : Int := if negative then -(n : Int) else n

def digitLimit : Nat := 4300

inductive Refusal where
  | malformed
  | tooManyDigits (count : Nat)
  | outOfRange
  deriving DecidableEq, Repr

/-- Why more than 4300 digits are not converted. -/
def limitMessage (count : Nat) : Text :=
  Text.ofString "Exceeds the limit (4300 digits) for integer string conversion: value has " ++
    ofNat count ++ Text.ofString
      " digits; use sys.set_int_max_str_digits() to increase the limit"

def ofDigits? (digits : Text) : Except Nat Nat :=
  if digits.length ≤ digitLimit then .ok (value digits) else .error digits.length

/-- A whole number of 32 bits: a sign or none, then ASCII digits and nothing else. -/
def readI32 (t : Text) : Except Refusal Int :=
  let (negative, digits) := splitSign t
  if digits.isEmpty || !digits.all Point.isDigit then .error .malformed
  else match ofDigits? digits with
    | .error count => .error (.tooManyDigits count)
    | .ok n =>
      let i := signed negative n
      if -0x80000000 ≤ i ∧ i < 0x80000000 then .ok i else .error .outOfRange

example : readI32 (Text.ofString "-007") = .ok (-7) := rfl
example : readI32 (Text.ofString "2147483648") = .error .outOfRange := rfl

end TextExpr.Numeral
