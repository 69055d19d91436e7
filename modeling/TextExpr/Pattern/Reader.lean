import TextExpr.Pattern.Cursor
import TextExpr.Pattern.Width
import TextExpr.Unicode.Decimal
import TextExpr.Unicode.Identifier
import TextExpr.Unicode.Letter
import TextExpr.Unicode.Name
import TextExpr.Unicode.Space

/-! Reading the text of a pattern. A place in a refusal counts points from zero; it is
the place of the next token, less how far back the trouble began. -/
namespace TextExpr.Pattern

/-- `widths` holds a place for each group opened so far, filled when the group closes. -/
structure State where
  cursor : Cursor
  flags : Flags
  widths : List (Option Width)
  names : List (Text × Nat)
  /-- The groups opened before the lookbehind that is being read. -/
  lookbehind : Option Nat
  /-- Groups that conditions name by number, each with its first place. -/
  conditions : List (Nat × Nat)

abbrev Reader := StateT State (Except Refusal)

namespace Reader

def refuse {α : Type} (r : Refusal) : Reader α := throw r

def peek : Reader (Option Token) := do return (← get).cursor.next

def position : Reader Nat := do return (← get).cursor.position

def left : Reader Nat := do return (← get).cursor.rest.length + 1

/-- Refuses at the place `back` points before the next token. -/
def complain {α : Type} (what : Complaint) (back : Nat) : Reader α := do
  refuse (.malformed what ((← position) - back))

def complainAt {α : Type} (what : Complaint) (place : Nat) : Reader α :=
  refuse (.malformed what place)

def skip : Reader Unit := do
  let s ← get
  let cursor ← s.cursor.advance
  set { s with cursor }

def next : Reader (Option Token) := do
  let token ← peek
  skip
  return token

/-- Takes the next token if it is the character. -/
def accept (c : Char) : Reader Bool := do
  if (← peek) = some (.plain (.char c)) then
    skip
    return true
  else return false

def seek (cursor : Cursor) : Reader Unit := modify fun s => { s with cursor }

/-- At most `count` tokens of a class of points. -/
def takeWhile (holds : Point → Bool) : Nat → Reader Text
  | 0 => return []
  | count + 1 => do
    match ← peek with
    | some (.plain p) =>
      if holds p then do
        skip
        return p :: (← takeWhile holds count)
      else return []
    | _ => return []

def takeUntilGo (terminator : Char) (what : Text) (found : Text) : Nat → Reader Text
  | 0 => return found
  | fuel + 1 => do
    match ← next with
    | none =>
      if found.isEmpty then complain (.missing what) 0
      else complain (.unterminatedName [.char terminator]) found.length
    | some token =>
      if token = .plain (.char terminator) then
        if found.isEmpty then complain (.missing what) 1 else return found
      else takeUntilGo terminator what (found ++ token.text) fuel

/-- A name up to its terminator, which is taken too. -/
def takeUntil (terminator : Char) (what : Text) : Reader Text := do
  takeUntilGo terminator what [] ((← left) + 1)

def groupName : Text := Text.ofString "group name"

def checkName (name : Text) : Reader Unit := do
  if !Unicode.isIdentifier name then complain (.badGroupName name) (name.length + 1)

/-! Groups -/

def groupCount : Reader Nat := do return (← get).widths.length + 1

def openGroup (name : Option Text) : Reader Nat := do
  let number ← groupCount
  match name with
  | none => pure ()
  | some name =>
    match (← get).names.lookup name with
    | some earlier => complain (.redefinedName name number earlier) (name.length + 1)
    | none => modify fun s => { s with names := (name, number) :: s.names }
  modify fun s => { s with widths := s.widths ++ [none] }
  return number

/-- The width of a closed group. -/
def State.width? (s : State) (group : Nat) : Option Width :=
  match group with
  | 0 => none
  | n + 1 => (s.widths[n]?).bind id

def State.widthOf (s : State) (group : Nat) : Width := (State.width? s group).getD .zero

def closeGroup (number : Nat) (body : List Item) : Reader Unit :=
  modify fun s => { s with
    widths := s.widths.set (number - 1) (some (sequenceWidth (State.widthOf s) body)) }

def isClosed (group : Nat) : Reader Bool := do return (State.width? (← get) group).isSome

/-- In a lookbehind a group may be named only if it was closed before. -/
def checkLookbehind (group : Nat) : Reader Unit := do
  match (← get).lookbehind with
  | none => pure ()
  | some before =>
    if !(← isClosed group) then complain .openGroup 0
    if before ≤ group then complain .sameLookbehind 0

/-! Escapes -/

def isOctal (p : Point) : Bool := 0x30 ≤ p.code && p.code ≤ 0x37

def isHex (p : Point) : Bool := p.hexValue?.isSome

def octalValue (digits : Text) : Nat := digits.foldl (fun n p => n * 8 + p.digitValue) 0

def isAsciiLetter : Point → Bool
  | .char c => c.isAlpha
  | .surrogate _ => false

/-- Escapes that stand for one control. -/
def control? : Char → Option Nat
  | 'a' => some 0x07
  | 'b' => some 0x08
  | 'f' => some 0x0C
  | 'n' => some 0x0A
  | 'r' => some 0x0D
  | 't' => some 0x09
  | 'v' => some 0x0B
  | '\\' => some 0x5C
  | _ => none

def category? : Char → Option Member
  | 'd' => some (.category .digit false)
  | 'D' => some (.category .digit true)
  | 's' => some (.category .space false)
  | 'S' => some (.category .space true)
  | 'w' => some (.category .word false)
  | 'W' => some (.category .word true)
  | _ => none

def anchor? : Char → Option Anchor
  | 'A' => some .textStart
  | 'Z' => some .textEnd
  | 'b' => some .boundary
  | 'B' => some .nonBoundary
  | _ => none

/-- The text of an escape so far: its backslash, its point and the digits taken. -/
def escapeText (p : Point) (digits : Text) : Text := .char '\\' :: p :: digits

/-- The code of an escape of so many digits. One that does not fit 32 bits with a sign is refused
as a whole, before its place is looked at. -/
def readHex (p : Point) (count : Nat) : Reader Nat := do
  let digits ← takeWhile isHex count
  let text := escapeText p digits
  if digits.length ≠ count then complain (.incompleteEscape text) text.length
  let n := Numeral.hexValue digits
  if 0x80000000 ≤ n then refuse .codeTooLarge
  if 0x110000 ≤ n then complain (.badEscape text) text.length
  return n

def readNamed (p : Point) : Reader Nat := do
  if !(← accept '\x7b') then complain (.missing [.char '\x7b']) 0
  let name ← takeUntil '\x7d' (Text.ofString "character name")
  match Text.toString? name with
  | none => complain (.badEscape (escapeText p [])) 2
  | some plain =>
    match Unicode.named? plain with
    | some n => return n
    | none => complain (.undefinedCharacter name) (name.length + 4)

def checkOctal (text : Text) (n : Nat) : Reader Nat := do
  if 0o377 < n then complain (.octalOutOfRange text) text.length
  return n

/-- The escapes by a code or a name, which mean the same inside and outside a set. -/
def readCoded? (p : Point) : Reader (Option Nat) := do
  match p with
  | .char 'x' => return some (← readHex p 2)
  | .char 'u' => return some (← readHex p 4)
  | .char 'U' => return some (← readHex p 8)
  | .char 'N' => return some (← readNamed p)
  | _ => return none

def readSetEscape (p : Point) : Reader Member := do
  match p with
  | .char c =>
    if let some n := control? c then return .point n
    if let some m := category? c then return m
  | .surrogate _ => pure ()
  if let some n ← readCoded? p then return .point n
  if isOctal p then
    let digits ← takeWhile isOctal 2
    return .point (← checkOctal (escapeText p digits) (octalValue (p :: digits)))
  if p.isDigit || isAsciiLetter p then complain (.badEscape (escapeText p [])) 2
  return .point p.code

def readReference (digits : Text) : Reader Item := do
  let group := Numeral.value digits
  if (← groupCount) ≤ group then complain (.invalidReference group) digits.length
  if !(← isClosed group) then complain .openGroup (digits.length + 1)
  checkLookbehind group
  return .backref group

/-- An escape that begins with a digit from one to nine: three octal digits are a code,
others the number of a group. -/
def readNumbered (p : Point) : Reader Item := do
  let second ← takeWhile Point.isDigit 1
  if !second.isEmpty && isOctal p && second.all isOctal then
    let third ← takeWhile isOctal 1
    if third.isEmpty then readReference (p :: second)
    else
      let digits := second ++ third
      return .point (← checkOctal (escapeText p digits) (octalValue (p :: digits))) false
  else readReference (p :: second)

def readEscape (p : Point) : Reader Item := do
  match p with
  | .char c =>
    if let some m := category? c then return .set false [m]
    if let some a := anchor? c then return .anchor a
    if let some n := control? c then return .point n false
  | .surrogate _ => pure ()
  if let some n ← readCoded? p then return .point n false
  if p = .char '0' then
    let digits ← takeWhile isOctal 2
    return .point (octalValue digits) false
  if p.isDigit then readNumbered p
  else
    if isAsciiLetter p then complain (.badEscape (escapeText p [])) 2
    return .point p.code false

/-! Sets -/

def readMember : Token → Reader Member
  | .plain p => return .point p.code
  | .escape p => readSetEscape p

/-- The range between two members, which must be points in order. -/
def rangeOf (first last : Token) (lo hi : Member) : Reader Member := do
  let back := first.width + 1 + last.width
  match lo, hi with
  | .point m, .point n =>
    if n < m then complain (.badRange first.text last.text) back
    return .range m n
  | _, _ => complain (.badRange first.text last.text) back

/-- The members up to the closing bracket, which is a member where it stands first.
`found` holds those read, the last one first. -/
def readMembers (start : Nat) : List Member → Nat → Reader (List Member)
  | found, 0 => return found.reverse
  | found, fuel + 1 => do
    match ← next with
    | none => complainAt .unterminatedSet start
    | some token =>
      if token = .plain (.char ']') && !found.isEmpty then return found.reverse
      let member ← readMember token
      if !(← accept '-') then readMembers start (member :: found) fuel
      else match ← next with
        | none => complainAt .unterminatedSet start
        | some last =>
          if last = .plain (.char ']') then return (.point 0x2D :: member :: found).reverse
          let range ← rangeOf token last member (← readMember last)
          readMembers start (range :: found) fuel

/-- A set, from the point after its opening bracket. -/
def readSet : Reader Item := do
  let start := (← position) - 1
  let negated ← accept '^'
  let members := (← readMembers start [] ((← left) + 1)).eraseDups
  match members with
  | [.point n] => return .point n negated
  | _ => return .set negated members

/-! Repetitions -/

structure Bounds where
  min : Nat
  max : Option Nat

def repetitionLimit : Nat := 0xFFFFFFFF

def readBound (digits : Text) : Reader Nat := do
  match Numeral.ofDigits? digits with
  | .error count => refuse (.tooManyDigits count)
  | .ok n =>
    if repetitionLimit ≤ n then refuse .repetitionTooLarge
    return n

/-- The bounds between braces, from the point after the opening one; `none` where the
brace stands for itself. -/
def readBraces : Reader (Option Bounds) := do
  let start := (← get).cursor
  if start.next = some (.plain (.char '\x7d')) then return none
  let digits ← takeWhile Point.isDigit (← left)
  let (low, high) ←
    if ← accept ',' then pure (digits, ← takeWhile Point.isDigit (← left))
    else pure (digits, digits)
  if !(← accept '\x7d') then
    seek start
    return none
  let least ← if low.isEmpty then pure 0 else readBound low
  if high.isEmpty then return some ⟨least, none⟩
  let most ← readBound high
  if most < least then complainAt .minAboveMax start.position
  return some ⟨least, some most⟩

def readBounds : Char → Reader (Option Bounds)
  | '?' => return some ⟨0, some 1⟩
  | '*' => return some ⟨0, none⟩
  | '+' => return some ⟨1, none⟩
  | _ => readBraces

def readGreed : Reader Greed := do
  if ← accept '?' then return .lazy
  if ← accept '+' then return .possessive
  return .greedy

/-- The items, last one first, after the last one is repeated. -/
def repeatLast (place : Nat) (bounds : Bounds) : List Item → Reader (List Item)
  | [] => complainAt .nothingToRepeat place
  | item :: before => do
    if item.isAnchor then complainAt .nothingToRepeat place
    if item.isRepetition then complainAt .multipleRepeat place
    return .rep (← readGreed) bounds.min bounds.max item.unwrap :: before

/-! Flags -/

def flag? : Char → Option Flags
  | 'i' => some { ignoreCase := true }
  | 'm' => some { multiline := true }
  | 's' => some { dotAll := true }
  | 'x' => some { verbose := true }
  | 'a' => some { ascii := true }
  | 'u' => some { unicode := true }
  | 't' => some { template := true }
  | _ => none

def isFlag (c : Char) : Bool := (flag? c).isSome || c = 'L'

/-- A token where a flag could stand: refused as an unknown flag if it is a letter. -/
def complainFlag {α : Type} (token : Token) (expected : Text) : Reader α :=
  match token with
  | .plain p =>
    if Unicode.isLetter p.code then complain .unknownFlag 1 else complain (.missing expected) 1
  | .escape _ => complain (.missing expected) 2

def isOneOf (cs : List Char) (token : Token) : Bool :=
  cs.any fun c => token = .plain (.char c)

def asFlag? : Token → Option Char
  | .plain (.char c) => if isFlag c then some c else none
  | _ => none

/-- The flags turned on, from `c` on, and the character that ends them. -/
def readOn (c : Char) (on : Flags) : Nat → Reader (Flags × Token)
  | 0 => return (on, .plain (.char c))
  | fuel + 1 => do
    let flag ← match flag? c with
      | some flag => pure flag
      | none => complain .localeFlag 0
    let on := on.union flag
    if flag.namesAlphabet && on.ascii && on.unicode then complain .exclusiveFlags 0
    let expected := Text.ofString "-, : or )"
    match ← next with
    | none => complain (.missing expected) 0
    | some token =>
      if isOneOf [')', '-', ':'] token then return (on, token)
      match asFlag? token with
      | some c => readOn c on fuel
      | none => complainFlag token expected

/-- The flags turned off, from `c` on, up to a colon. -/
def readOff (c : Char) (off : Flags) : Nat → Reader Flags
  | 0 => return off
  | fuel + 1 => do
    let flag ← match flag? c with
      | some flag => pure flag
      | none => complain .turnsOffAlphabet 0
    if flag.namesAlphabet then complain .turnsOffAlphabet 0
    let off := off.union flag
    let expected := Text.ofString ":"
    match ← next with
    | none => complain (.missing expected) 0
    | some token =>
      if isOneOf [':'] token then return off
      match asFlag? token with
      | some c => readOff c off fuel
      | none => complainFlag token expected

/-- Flags for the whole pattern give `none`, flags of a group what it turns on and off. -/
def readFlags (c : Char) : Reader (Option (Flags × Flags)) := do
  let fuel ← left
  let (on, ending) ←
    if c = '-' then pure (Flags.none, .plain (.char '-')) else readOn c .none (fuel + 1)
  if ending = .plain (.char ')') then
    modify fun s => { s with flags := s.flags.union on }
    return none
  if on.template then complain .turnsOnGlobal 1
  let off ←
    if ending = .plain (.char '-') then do
      let expected := Text.ofString "flag"
      match ← next with
      | none => complain (.missing expected) 0
      | some token =>
        match asFlag? token with
        | some c => readOff c .none (fuel + 1)
        | none => complainFlag token expected
    else pure Flags.none
  if off.template then complain .turnsOffGlobal 1
  if on.meets off then complain .turnsOnAndOff 1
  return some (on, off)

/-! Sequences -/

/-- How deep groups may nest. It stands for the stack that is left to the reader, which depends on
the caller. With a stack of the usual size a nesting of 100 fits and one of 5000 does not. -/
def nestingLimit : Nat := 450

/-- What reading a sequence depends on. -/
structure Setting where
  verbose : Bool
  nesting : Nat
  /-- Flags for the whole pattern may stand here. -/
  atStart : Bool

def skipLine : Nat → Reader Unit
  | 0 => pure ()
  | fuel + 1 => do
    match ← next with
    | none => pure ()
    | some token => if token = .plain (.char '\n') then pure () else skipLine fuel

def skipComment (start : Nat) : Nat → Reader Unit
  | 0 => pure ()
  | fuel + 1 => do
    match ← peek with
    | none => complainAt .unterminatedComment start
    | some token =>
      skip
      if token = .plain (.char ')') then pure () else skipComment start fuel

/-- The number that a condition names, signs, blanks and digit separators allowed. -/
def groupNumber? (name : Text) : Option Nat :=
  let isAscii := name.all fun p => p.code < 0x80
  let isBlank := fun p : Point =>
    if isAscii then p = .char ' ' || 0x09 ≤ p.code && p.code ≤ 0x0D else Unicode.isSpace p.code
  let trimmed := ((name.dropWhile isBlank).reverse.dropWhile isBlank).reverse
  let (negative, digits) := Numeral.splitSign trimmed
  let parts := digits.splitOn (.char '_')
  if parts.any List.isEmpty then none
  else match parts.flatten.mapM fun p => Unicode.decimalValue? p.code with
    | none => none
    | some values =>
      let n := values.foldl (fun n d => n * 10 + d) 0
      if Numeral.digitLimit < values.length || negative && n ≠ 0 then none else some n

def groupNumberLimit : Nat := 0x7FFFFFFF

/-- The group that a condition tests, from the point after its parenthesis. -/
def readCondition : Reader Nat := do
  let name ← takeUntil ')' groupName
  let back := name.length + 1
  let group ←
    if Unicode.isIdentifier name then
      match (← get).names.lookup name with
      | some group => pure group
      | none => complain (.unknownGroupName name) back
    else match groupNumber? name with
      | none => complain (.badGroupName name) back
      | some 0 => complain .badGroupNumber back
      | some group => do
        if groupNumberLimit ≤ group then complain (.invalidReference group) back
        let place := (← position) - back
        let conditions := (← get).conditions
        if (conditions.lookup group).isNone then
          modify fun s => { s with conditions := conditions ++ [(group, place)] }
        pure group
  checkLookbehind group
  return group

def readNameReference : Reader Item := do
  let name ← takeUntil ')' groupName
  checkName name
  match (← get).names.lookup name with
  | none => complain (.unknownGroupName name) (name.length + 1)
  | some group =>
    if !(← isClosed group) then complain .openGroup (name.length + 1)
    checkLookbehind group
    return .backref group

def closeParenthesis (start : Nat) : Reader Unit := do
  if !(← accept ')') then complainAt .unterminatedGroup start

/-- What opens after a parenthesis. -/
inductive Opening where
  /-- Complete: an item, or nothing for a comment. -/
  | done (item : Option Item)
  /-- Flags for the whole pattern. -/
  | globalFlags
  | capture (name : Option Text)
  | plain (on off : Flags)
  | atomic
  | look (behind negated : Bool)
  | cond (group : Nat)

/-- After a question mark and a less-than sign. -/
def readLookbehind : Reader Opening := do
  match ← next with
  | none => complain .unexpectedEnd 0
  | some token =>
    if isOneOf ['='] token then return .look true false
    if isOneOf ['!'] token then return .look true true
    complain (.unknownExtension (.char '<' :: token.text)) (token.width + 2)

/-- After a question mark and a P. -/
def readNamedOpening : Reader Opening := do
  if ← accept '<' then
    let name ← takeUntil '>' groupName
    checkName name
    return .capture (some name)
  if ← accept '=' then return .done (some (← readNameReference))
  match ← next with
  | none => complain .unexpectedEnd 0
  | some token =>
    complain (.unknownExtension (.char 'P' :: token.text)) (token.width + 2)

/-- After a question mark. -/
def readExtension (start : Nat) : Reader Opening := do
  match ← next with
  | none => complain .unexpectedEnd 0
  | some token =>
    match token with
    | .plain (.char 'P') => readNamedOpening
    | .plain (.char ':') => return .plain .none .none
    | .plain (.char '#') =>
      skipComment start ((← left) + 1)
      return .done none
    | .plain (.char '=') => return .look false false
    | .plain (.char '!') => return .look false true
    | .plain (.char '<') => readLookbehind
    | .plain (.char '(') => return .cond (← readCondition)
    | .plain (.char '>') => return .atomic
    | .plain (.char c) =>
      if isFlag c || c = '-' then
        match ← readFlags c with
        | none => return .globalFlags
        | some (on, off) => return .plain on off
      else complain (.unknownExtension token.text) (token.width + 1)
    | _ => complain (.unknownExtension token.text) (token.width + 1)

def readOpening (start : Nat) : Reader Opening := do
  if ← accept '?' then readExtension start else return .capture none

def isVerboseBlank (p : Point) : Bool :=
  p = .char ' ' || 0x09 ≤ p.code && p.code ≤ 0x0D

def withLookbehind {α : Type} (behind : Bool) (read : Reader α) : Reader α := do
  let before := (← get).lookbehind
  if behind && before.isNone then
    let count ← groupCount
    modify fun s => { s with lookbehind := some count }
  let result ← read
  if behind && before.isNone then modify fun s => { s with lookbehind := none }
  return result

mutual

/-- Branches up to a closing parenthesis or the end. -/
def readBranches (setting : Setting) : Nat → Reader (List (List Item))
  | 0 => refuse .tooDeep
  | fuel + 1 => do
    let branch ← readItems setting [] fuel
    if ← accept '|' then
      let flags := (← get).flags
      let verbose := if setting.nesting = 0 then flags.verbose else setting.verbose
      let others ← readBranches { setting with verbose, atStart := false } fuel
      return branch :: others
    else return [branch]

/-- The items of a branch. `found` holds those read, the last one first. -/
def readItems (setting : Setting) (found : List Item) : Nat → Reader (List Item)
  | 0 => refuse .tooDeep
  | fuel + 1 => do
    match ← peek with
    | none => return found.reverse.flatMap Item.unwrap
    | some token =>
      if isOneOf ['|', ')'] token then return found.reverse.flatMap Item.unwrap
      let start ← position
      skip
      match token with
      | .escape p => readItems setting ((← readEscape p) :: found) fuel
      | .plain (.char c) =>
        if setting.verbose && isVerboseBlank (.char c) then readItems setting found fuel
        else if setting.verbose && c = '#' then do
          skipLine ((← left) + 1)
          readItems setting found fuel
        else match c with
          | '[' => readItems setting ((← readSet) :: found) fuel
          | '.' => readItems setting (.any :: found) fuel
          | '^' => readItems setting (.anchor .lineStart :: found) fuel
          | '$' => readItems setting (.anchor .lineEnd :: found) fuel
          | '(' =>
            match ← readOpening start with
            | .done item => readItems setting (item.toList ++ found) fuel
            | .globalFlags => do
              if !setting.atStart || !found.isEmpty then complainAt .flagsNotAtStart start
              readItems { setting with verbose := (← get).flags.verbose } found fuel
            | opening => do
              let item ← readGroup setting start opening fuel
              readItems setting (item :: found) fuel
          | _ =>
            if c = '*' || c = '+' || c = '?' || c = '\x7b' then
              match ← readBounds c with
              | some bounds => do
                readItems setting (← repeatLast start bounds found) fuel
              | none => readItems setting (.point c.toNat false :: found) fuel
            else readItems setting (.point c.toNat false :: found) fuel
      | .plain p => readItems setting (.point p.code false :: found) fuel

/-- The body of a group and its closing parenthesis. -/
def readGroup (setting : Setting) (start : Nat) (opening : Opening) : Nat → Reader Item
  | 0 => refuse .tooDeep
  | fuel + 1 => do
    if nestingLimit ≤ setting.nesting then refuse .tooDeep
    let inner : Setting := { setting with nesting := setting.nesting + 1, atStart := false }
    match opening with
    | .capture name => do
      let number ← openGroup name
      let body := alternatives (← readBranches inner fuel)
      closeParenthesis start
      closeGroup number body
      return .group (some number) .none .none body
    | .plain on off => do
      let verbose := (setting.verbose || on.verbose) && !off.verbose
      let body := alternatives (← readBranches { inner with verbose } fuel)
      closeParenthesis start
      return .group none on off body
    | .atomic => do
      let body := alternatives (← readBranches inner fuel)
      closeParenthesis start
      return .atomic body
    | .look behind negated => do
      let body ← withLookbehind behind do
        return alternatives (← readBranches inner fuel)
      closeParenthesis start
      return .look behind negated body
    | .cond group => do
      let yes ← readItems inner [] fuel
      let no ← if ← accept '|' then pure (some (← readItems inner [] fuel)) else pure none
      if no.isSome && (← peek) = some (.plain (.char '|')) then complain .thirdBranch 0
      closeParenthesis start
      return .cond group yes no
    | _ => return .atomic []

end

/-- Whole patterns: nothing may be left, and each group a condition names must exist. -/
def readAll (fuel : Nat) : Reader (List Item) := do
  let items := alternatives (← readBranches ⟨false, 0, true⟩ fuel)
  let flags := (← get).flags
  if flags.ascii && flags.unicode then refuse .flagConflict
  if (← peek).isSome then complain .unbalanced 0
  let count ← groupCount
  match (← get).conditions.find? (count ≤ ·.1) with
  | some (group, place) => complainAt (.invalidReference group) place
  | none => return items

end Reader

/-- A pattern's items, the flags it sets for itself, and the widths of its groups. -/
structure Reading where
  items : List Item
  flags : Flags
  widths : Nat → Width

def read (t : Text) : Except Refusal Reading := do
  let cursor ← Cursor.at? 0 t
  let (items, s) ← (Reader.readAll (3 * t.length + 10)).run ⟨cursor, .none, [], [], none, []⟩
  return ⟨items, s.flags, Reader.State.widthOf s⟩

end TextExpr.Pattern
