import TextExpr.Numeral
import TextExpr.Pattern.Syntax
import TextExpr.Text.Shown

/-! Why a text is no pattern, and how that is worded. -/
namespace TextExpr.Pattern

inductive Complaint where
  | escapeAtEnd
  | missing (what : Text)
  | unterminatedName (terminator : Text)
  | badGroupName (name : Text)
  | badGroupNumber
  | unknownGroupName (name : Text)
  | redefinedName (name : Text) (group earlier : Nat)
  | incompleteEscape (escape : Text)
  | badEscape (escape : Text)
  | octalOutOfRange (escape : Text)
  | undefinedCharacter (name : Text)
  | openGroup
  | sameLookbehind
  | invalidReference (group : Nat)
  | unterminatedSet
  | badRange (first last : Text)
  | minAboveMax
  | nothingToRepeat
  | multipleRepeat
  | unexpectedEnd
  | unknownExtension (what : Text)
  | unterminatedComment
  | unterminatedGroup
  | thirdBranch
  | flagsNotAtStart
  | localeFlag
  | exclusiveFlags
  | unknownFlag
  | turnsOnGlobal
  | turnsOffAlphabet
  | turnsOffGlobal
  | turnsOnAndOff
  | unbalanced
  deriving DecidableEq, Repr

/-- Refused at a place of the text, or as a whole. `flagConflict` and `tooManyDigits`
are faults outside the language of patterns. -/
inductive Refusal where
  | malformed (what : Complaint) (position : Nat)
  | tooFarBehind
  | variableBehind
  | templateRepetition (greed : Greed)
  | repetitionTooLarge
  /-- The code of an escape does not fit 32 bits with a sign. -/
  | codeTooLarge
  /-- The reader ran out of stack. -/
  | tooDeep
  | flagConflict
  | tooManyDigits (count : Nat)
  deriving DecidableEq, Repr

namespace Complaint

def message : Complaint → Text
  | escapeAtEnd => Text.ofString "bad escape (end of pattern)"
  | missing what => Text.ofString "missing " ++ what
  | unterminatedName terminator =>
    Text.ofString "missing " ++ terminator ++ Text.ofString ", unterminated name"
  | badGroupName name => Text.ofString "bad character in group name " ++ name.shown
  | badGroupNumber => Text.ofString "bad group number"
  | unknownGroupName name => Text.ofString "unknown group name " ++ name.shown
  | redefinedName name group earlier =>
    Text.ofString "redefinition of group name " ++ name.shown ++ Text.ofString " as group " ++
      Numeral.ofNat group ++ Text.ofString "; was group " ++ Numeral.ofNat earlier
  | incompleteEscape escape => Text.ofString "incomplete escape " ++ escape
  | badEscape escape => Text.ofString "bad escape " ++ escape
  | octalOutOfRange escape =>
    Text.ofString "octal escape value " ++ escape ++ Text.ofString " outside of range 0-0o377"
  | undefinedCharacter name => Text.ofString "undefined character name " ++ name.shown
  | openGroup => Text.ofString "cannot refer to an open group"
  | sameLookbehind =>
    Text.ofString "cannot refer to group defined in the same lookbehind subpattern"
  | invalidReference group =>
    Text.ofString "invalid group reference " ++ Numeral.ofNat group
  | unterminatedSet => Text.ofString "unterminated character set"
  | badRange first last =>
    Text.ofString "bad character range " ++ first ++ .char '-' :: last
  | minAboveMax => Text.ofString "min repeat greater than max repeat"
  | nothingToRepeat => Text.ofString "nothing to repeat"
  | multipleRepeat => Text.ofString "multiple repeat"
  | unexpectedEnd => Text.ofString "unexpected end of pattern"
  | unknownExtension what => Text.ofString "unknown extension ?" ++ what
  | unterminatedComment => Text.ofString "missing ), unterminated comment"
  | unterminatedGroup => Text.ofString "missing ), unterminated subpattern"
  | thirdBranch => Text.ofString "conditional backref with more than two branches"
  | flagsNotAtStart => Text.ofString "global flags not at the start of the expression"
  | localeFlag => Text.ofString "bad inline flags: cannot use 'L' flag with a str pattern"
  | exclusiveFlags =>
    Text.ofString "bad inline flags: flags 'a', 'u' and 'L' are incompatible"
  | unknownFlag => Text.ofString "unknown flag"
  | turnsOnGlobal => Text.ofString "bad inline flags: cannot turn on global flag"
  | turnsOffAlphabet =>
    Text.ofString "bad inline flags: cannot turn off flags 'a', 'u' and 'L'"
  | turnsOffGlobal => Text.ofString "bad inline flags: cannot turn off global flag"
  | turnsOnAndOff => Text.ofString "bad inline flags: flag turned on and off"
  | unbalanced => Text.ofString "unbalanced parenthesis"

end Complaint

/-- A place of the pattern; a pattern of several lines gives line and column too. -/
def placeText (pattern : Text) (position : Nat) : Text :=
  let (line, column) := Text.lineAndColumn (pattern.take position)
  Text.ofString " at position " ++ Numeral.ofNat position ++
    if pattern.contains (.char '\n') then
      Text.ofString " (line " ++ Numeral.ofNat line ++ Text.ofString ", column " ++
        Numeral.ofNat column ++ [.char ')']
    else []

def Greed.label : Greed → Text
  | greedy => Text.ofString "MAX_REPEAT"
  | lazy => Text.ofString "MIN_REPEAT"
  | possessive => Text.ofString "POSSESSIVE_REPEAT"

namespace Refusal

/-- What the refusal of `pattern` says. Of a stack that ran out it says no more than that: the words
that may follow tell which call was the last one, and that depends on the stack at the start. -/
def message (pattern : Text) : Refusal → Text
  | malformed what position => what.message ++ placeText pattern position
  | tooFarBehind => Text.ofString "looks too much behind"
  | variableBehind => Text.ofString "look-behind requires fixed-width pattern"
  | templateRepetition greed =>
    Text.ofString "internal: unsupported template operator " ++ greed.label
  | repetitionTooLarge => Text.ofString "the repetition number is too large"
  | codeTooLarge => Text.ofString "Python int too large to convert to C int"
  | tooDeep => Text.ofString "maximum recursion depth exceeded"
  | flagConflict => Text.ofString "ASCII and UNICODE flags are incompatible"
  | tooManyDigits count => Numeral.limitMessage count

end Refusal

end TextExpr.Pattern
