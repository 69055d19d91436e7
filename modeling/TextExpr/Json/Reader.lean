import TextExpr.Double
import TextExpr.Json
import TextExpr.Numeral

/-! Reading documents. Each step gives a value and the text that is left. A step that
is handed its fuel has it from the length of its text, and takes a point each time. -/
namespace TextExpr.Json

inductive Complaint where
  | byteOrderMark
  | expectingValue
  | extraData
  | expectingName
  | expectingColon
  | expectingComma
  | unterminatedString
  | controlCharacter
  | unknownEscape
  | brokenEscape
  deriving DecidableEq, Repr

/-- Why a text is no document, before the place is counted. -/
inductive Trouble where
  | malformed (what : Complaint) (place : Text)
  | constant (name : Text)
  | tooManyDigits (count : Nat)
  | tooDeep

/-- Why a text is no document: `offset` counts points from zero, lines and columns
count from one. -/
inductive Refusal where
  | malformed (what : Complaint) (line column offset : Nat)
  | constant (name : Text)
  | tooManyDigits (count : Nat)
  /-- The reader ran out of stack. -/
  | tooDeep
  deriving DecidableEq, Repr

def Complaint.message : Complaint → Text
  | byteOrderMark => Text.ofString "Unexpected UTF-8 BOM (decode using utf-8-sig)"
  | expectingValue => Text.ofString "Expecting value"
  | extraData => Text.ofString "Extra data"
  | expectingName => Text.ofString "Expecting property name enclosed in double quotes"
  | expectingColon => Text.ofString "Expecting ':' delimiter"
  | expectingComma => Text.ofString "Expecting ',' delimiter"
  | unterminatedString => Text.ofString "Unterminated string starting at"
  | controlCharacter => Text.ofString "Invalid control character at"
  | unknownEscape => Text.ofString "Invalid \\escape"
  | brokenEscape => Text.ofString "Invalid \\uXXXX escape"

/-- What a refusal says. Of a stack that ran out it says no more than that: the words that follow
tell what the reader was at, a list, an object or the call itself, and that depends on the stack at
the start. -/
def Refusal.message : Refusal → Text
  | malformed what line column offset =>
    what.message ++ Text.ofString ": line " ++ Numeral.ofNat line ++ Text.ofString " column " ++
      Numeral.ofNat column ++ Text.ofString " (char " ++ Numeral.ofNat offset ++ [.char ')']
  | constant name => name ++ Text.ofString " is not valid JSON"
  | tooManyDigits count => Numeral.limitMessage count
  | tooDeep => Text.ofString "maximum recursion depth exceeded"

def isBlank (p : Point) : Bool :=
  p = .char ' ' || p = .char '\t' || p = .char '\n' || p = .char '\r'

def skipBlanks (t : Text) : Text := t.dropWhile isBlank

/-- What is left of a text after a word it begins with. -/
def after? (word t : Text) : Option Text :=
  if word.isPrefixOf t then some (t.drop word.length) else none

def unescape? : Point → Option Point
  | .char '"' => some (.char '"')
  | .char '\\' => some (.char '\\')
  | .char '/' => some (.char '/')
  | .char 'b' => some (.char '\x08')
  | .char 'f' => some (.char '\x0c')
  | .char 'n' => some (.char '\n')
  | .char 'r' => some (.char '\r')
  | .char 't' => some (.char '\t')
  | _ => none

/-- The code of four hexadecimal digits. -/
def hexCode? (digits : Text) : Option Nat :=
  if digits.length = 4 && digits.all (·.hexValue?.isSome) then some (Numeral.hexValue digits)
  else none

/-- The low surrogate that completes a pair. An escape that is broken is refused also here. -/
def readLow (t : Text) : Except Trouble (Option (Point × Text)) :=
  match t with
  | .char '\\' :: .char 'u' :: rest =>
    if rest.length < 5 then .ok none
    else match hexCode? (rest.take 4) with
      | none => .error (.malformed .brokenEscape (.char 'u' :: rest))
      | some n => .ok (if (Point.ofCode n).isLow then some (.ofCode n, rest.drop 4) else none)
  | _ => .ok none

/-- The point of an escape, from the point after its backslash. Something must follow
four hexadecimal digits. -/
def readEscape (opening backslash : Text) : Text → Except Trouble (Point × Text)
  | [] => .error (.malformed .unterminatedString opening)
  | .char 'u' :: rest =>
    if rest.length < 5 then .error (.malformed .brokenEscape (.char 'u' :: rest))
    else match hexCode? (rest.take 4) with
      | none => .error (.malformed .brokenEscape (.char 'u' :: rest))
      | some n =>
        if (Point.ofCode n).isHigh then do
          match ← readLow (rest.drop 4) with
          | some (low, left) => .ok ((Point.ofCode n).join low, left)
          | none => .ok (.ofCode n, rest.drop 4)
        else .ok (.ofCode n, rest.drop 4)
  | p :: rest =>
    match unescape? p with
    | some q => .ok (q, rest)
    | none => .error (.malformed .unknownEscape backslash)

/-- The points of a string up to its closing quote. `opening` begins at the first one. -/
def readPoints (opening : Text) : Nat → Text → Except Trouble (Text × Text)
  | 0, _ => .error (.malformed .unterminatedString opening)
  | _ + 1, [] => .error (.malformed .unterminatedString opening)
  | fuel + 1, p :: rest =>
    if p = .char '"' then .ok ([], rest)
    else if p = .char '\\' then do
      let (q, left) ← readEscape opening (p :: rest) rest
      let (points, left) ← readPoints opening fuel left
      .ok (q :: points, left)
    else if p.code < 0x20 then .error (.malformed .controlCharacter (p :: rest))
    else do
      let (points, left) ← readPoints opening fuel rest
      .ok (p :: points, left)

/-- A string, from the point after its opening quote. -/
def readString (t : Text) : Except Trouble (Text × Text) :=
  readPoints (.char '"' :: t) (t.length + 1) t

/-- The digits of a fraction and what follows; a point without a digit is left alone. -/
def readFraction (t : Text) : Text × Text :=
  match t with
  | .char '.' :: rest =>
    let (digits, left) := rest.span Point.isDigit
    if digits.isEmpty then ([], t) else (digits, left)
  | _ => ([], t)

/-- The exponent and what follows; a mark without a digit is left alone. -/
def readExponent (t : Text) : Option Int × Text :=
  match t with
  | .char c :: rest =>
    if c = 'e' ∨ c = 'E' then
      let (negative, unsigned) := Numeral.splitSign rest
      let (digits, left) := unsigned.span Point.isDigit
      if digits.isEmpty then (none, t)
      else (some (Numeral.signed negative (Numeral.value digits)), left)
    else (none, t)
  | _ => (none, t)

/-- Leading zeros are no part of a number. -/
def readWhole : Text → Text × Text
  | .char '0' :: rest => ([.char '0'], rest)
  | t => t.span Point.isDigit

def readNumber (t : Text) : Except Trouble (Json × Text) :=
  let (negative, unsigned) := match t with
    | .char '-' :: rest => (true, rest)
    | _ => (false, t)
  let (whole, afterWhole) := readWhole unsigned
  let (fraction, afterFraction) := readFraction afterWhole
  let (exponent, left) := readExponent afterFraction
  if whole.isEmpty then .error (.malformed .expectingValue t)
  else if fraction.isEmpty && exponent.isNone then
    match Numeral.ofDigits? whole with
    | .ok n => .ok (.int (Numeral.signed negative n), left)
    | .error count => .error (.tooManyDigits count)
  else
    .ok (.float (.ofDecimal negative (Numeral.value (whole ++ fraction))
      (exponent.getD 0 - fraction.length)), left)

def literals : List (Text × Json) :=
  [(Text.ofString "null", .null), (Text.ofString "true", .bool true),
    (Text.ofString "false", .bool false)]

def constants : List Text :=
  [Text.ofString "NaN", Text.ofString "Infinity", Text.ofString "-Infinity"]

/-- A value that holds no other. -/
def readScalar (t : Text) : Except Trouble (Json × Text) :=
  match t with
  | .char '"' :: rest => do
    let (s, left) ← readString rest
    .ok (.str s, left)
  | _ =>
    match literals.findSome? fun w => (after? w.1 t).map fun left => (w.2, left) with
    | some found => .ok found
    | none =>
      match constants.find? (·.isPrefixOf t) with
      | some name => .error (.constant name)
      | none => readNumber t

/-- The items of a list, up to and with its closing bracket. -/
def readItems (value : Text → Except Trouble (Json × Text)) : Nat → Text → Except Trouble (List Json × Text)
  | 0, t => .error (.malformed .expectingValue t)
  | fuel + 1, t => do
    let (item, left) ← value t
    match skipBlanks left with
    | .char ']' :: left => .ok ([item], left)
    | .char ',' :: left =>
      let (items, left) ← readItems value fuel (skipBlanks left)
      .ok (item :: items, left)
    | left => .error (.malformed .expectingComma left)

def readMember (value : Text → Except Trouble (Json × Text)) : Text → Except Trouble ((Text × Json) × Text)
  | .char '"' :: t => do
    let (name, left) ← readString t
    match skipBlanks left with
    | .char ':' :: left =>
      let (item, left) ← value (skipBlanks left)
      .ok ((name, item), left)
    | left => .error (.malformed .expectingColon left)
  | t => .error (.malformed .expectingName t)

/-- The members of an object after those in `found`, up to and with the closing brace. -/
def readMembers (value : Text → Except Trouble (Json × Text)) (found : List (Text × Json)) :
    Nat → Text → Except Trouble (List (Text × Json) × Text)
  | 0, t => .error (.malformed .expectingName t)
  | fuel + 1, t => do
    let ((name, item), left) ← readMember value t
    let found := setMember found name item
    match skipBlanks left with
    | .char '\x7d' :: left => .ok (found, left)
    | .char ',' :: left => readMembers value found fuel (skipBlanks left)
    | left => .error (.malformed .expectingComma left)

/-- A value nested at most `depth` levels. -/
def readValue : Nat → Text → Except Trouble (Json × Text)
  | 0, t =>
    match t with
    | .char '[' :: _ => .error .tooDeep
    | .char '\x7b' :: _ => .error .tooDeep
    | _ => readScalar t
  | depth + 1, t =>
    match t with
    | .char '[' :: rest =>
      match skipBlanks rest with
      | .char ']' :: left => .ok (.list [], left)
      | body => do
        let (items, left) ← readItems (readValue depth) (body.length + 1) body
        .ok (.list items, left)
    | .char '\x7b' :: rest =>
      match skipBlanks rest with
      | .char '\x7d' :: left => .ok (.obj [], left)
      | body => do
        let (members, left) ← readMembers (readValue depth) [] (body.length + 1) body
        .ok (.obj members, left)
    | _ => readScalar t

/-- How deep a document may nest. It stands for the stack that is left to the reader, which depends
on the caller. With a stack of the usual size a depth of 100 fits and one of 6000 does not. -/
def depthLimit : Nat := 900

def readWholeText (t : Text) : Except Trouble Json :=
  if t.head? = some (.ofCode 0xFEFF) then .error (.malformed .byteOrderMark t)
  else do
    let (value, left) ← readValue depthLimit (skipBlanks t)
    match skipBlanks left with
    | [] => .ok value
    | left => .error (.malformed .extraData left)

def Trouble.refusal (t : Text) : Trouble → Refusal
  | malformed what place =>
    let offset := t.length - place.length
    let (line, column) := Text.lineAndColumn (t.take offset)
    .malformed what line column offset
  | constant name => .constant name
  | tooManyDigits count => .tooManyDigits count
  | tooDeep => .tooDeep

/-- The document that a text holds, and nothing beside it. -/
def read (t : Text) : Except Refusal Json := (readWholeText t).mapError (Trouble.refusal t)

example : (read (Text.ofString "[1, \"a\\u0062\"]")).toOption.isSome := by decide +kernel

end TextExpr.Json
