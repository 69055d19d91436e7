import TextExpr.Unicode.NameTable

/-! Characters by name. Unified ideographs and Hangul syllables have names by rule. Of the
others the table has every name in the ranges 0020-052F, 2000-27FF, 3000-30FF, FEFF-FFFF and
1F300-1F6FF; all further names, such as those of Arabic letters, are not found here. -/
namespace TextExpr.Unicode

/-- Looks a name up among entries, from the code and the words that come before them. -/
def searchNames (wanted : List (List Char)) :
    Nat → List (List Char) → List (List Char) → Option Nat
  | _, _, [] => none
  | _, _, [] :: _ => none
  | code, words, (c :: tail) :: rest =>
    if c = '@' then
      searchNames wanted (tail.foldl (fun n d => n * 16 + hexDigit d) 0) words rest
    else
      let words := words.take (c.toNat - 'a'.toNat) ++ tail.splitOn ' '
      if words = wanted then some code else searchNames wanted (code + 1) words rest
where
  hexDigit (d : Char) : Nat := if d.isDigit then d.toNat - 0x30 else d.toNat - 0x37

def tableNamed? (name : List Char) : Option Nat :=
  let wanted := name.splitOn ' '
  [latinNames, punctuationNames, symbolNames, kanaNames, widthNames, pictureNames].findSome?
    fun block => searchNames wanted 0 [] ((block.toList.filter (· ≠ '\n')).splitOn ',')

/-- What is left of a name after one of its beginnings. -/
def afterBeginning? (beginning : String) (name : List Char) : Option (List Char) :=
  if beginning.toList.isPrefixOf name then some (name.drop beginning.toList.length) else none

def isUnifiedIdeograph (n : Nat) : Bool :=
  [(0x3400, 0x4DBF), (0x4E00, 0x9FFF), (0x20000, 0x2A6DF), (0x2A700, 0x2B738),
    (0x2B740, 0x2B81D), (0x2B820, 0x2CEA1), (0x2CEB0, 0x2EBE0), (0x30000, 0x3134A)].any
    fun r => r.1 ≤ n && n ≤ r.2

def isUpperHex (d : Char) : Bool := d.isDigit || 'A' ≤ d && d ≤ 'F'

def ideograph? (name : List Char) : Option Nat :=
  match afterBeginning? "CJK UNIFIED IDEOGRAPH-" name with
  | none => none
  | some digits =>
    let n := digits.foldl (fun n d => n * 16 + searchNames.hexDigit d) 0
    if (digits.length = 4 || digits.length = 5) && digits.all isUpperHex && isUnifiedIdeograph n
    then some n else none

def leadingJamo : List String :=
  ["G", "GG", "N", "D", "DD", "R", "M", "B", "BB", "S", "SS", "", "J", "JJ", "C", "K", "T", "P", "H"]

def vowelJamo : List String :=
  ["A", "AE", "YA", "YAE", "EO", "E", "YEO", "YE", "O", "WA", "WAE", "OE", "YO", "U", "WEO", "WE",
    "WI", "YU", "EU", "YI", "I"]

def trailingJamo : List String :=
  ["", "G", "GG", "GS", "N", "NJ", "NH", "D", "L", "LG", "LM", "LB", "LS", "LT", "LP", "LH", "M",
    "B", "BS", "S", "SS", "NG", "J", "C", "K", "T", "P", "H"]

/-- The longest of some beginnings, by its place among them, and what is left. -/
def longestBeginning? (beginnings : List String) (name : List Char) : Option (Nat × List Char) :=
  (beginnings.zipIdx.filterMap fun (b, i) => (afterBeginning? b name).map fun left => (i, left)).foldl
    (fun best found =>
      match best with
      | some b => if found.2.length < b.2.length then some found else some b
      | none => some found) none

def hangul? (name : List Char) : Option Nat := do
  let name ← afterBeginning? "HANGUL SYLLABLE " name
  let (l, name) ← longestBeginning? leadingJamo name
  let (v, name) ← longestBeginning? vowelJamo name
  let (t, name) ← longestBeginning? trailingJamo name
  if name.isEmpty then some (0xAC00 + (l * 21 + v) * 28 + t) else none

/-- The code of the character with a name; letters count without regard to case. -/
def named? (name : String) : Option Nat :=
  let plain := name.toList
  let upper := plain.map Char.toUpper
  (hangul? plain).orElse fun _ => (ideograph? plain).orElse fun _ =>
    (aliases.lookup (String.ofList upper)).orElse fun _ => tableNamed? upper

end TextExpr.Unicode
