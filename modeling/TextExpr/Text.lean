/-! Texts are lists of code points. A document can name a lone surrogate by its
escape, so a point is a character or one of the 2048 surrogate codes. -/
namespace TextExpr

inductive Point where
  | char (c : Char)
  | surrogate (n : Fin 2048)
  deriving DecidableEq, Repr, Inhabited

abbrev Text := List Point

namespace Point

def code : Point → Nat
  | char c => c.toNat
  | surrogate n => 0xD800 + n.val

/-- The point of a code below 0x110000. -/
def ofCode (n : Nat) : Point :=
  if 0xD800 ≤ n ∧ n < 0xE000 then surrogate (Fin.ofNat 2048 (n - 0xD800)) else char (Char.ofNat n)

def isHigh : Point → Bool
  | char _ => false
  | surrogate n => n.val < 1024

def isLow : Point → Bool
  | char _ => false
  | surrogate n => 1024 ≤ n.val

/-- The point that a high and a low surrogate stand for together. -/
def join (high low : Point) : Point :=
  ofCode (0x10000 + (high.code - 0xD800) * 1024 + (low.code - 0xDC00))

def isDigit : Point → Bool
  | char c => c.isDigit
  | surrogate _ => false

def digitValue (p : Point) : Nat := p.code - '0'.toNat

def hexValue? : Point → Option Nat
  | char c =>
    if c.isDigit then some (c.toNat - '0'.toNat)
    else if 'a' ≤ c && c ≤ 'f' then some (c.toNat - 'a'.toNat + 10)
    else if 'A' ≤ c && c ≤ 'F' then some (c.toNat - 'A'.toNat + 10)
    else none
  | surrogate _ => none

theorem code_char (c : Char) : (char c).code = c.toNat := rfl

theorem ofCode_of_inside {n : Nat} (h : 0xD800 ≤ n ∧ n < 0xE000) :
    ofCode n = surrogate (Fin.ofNat 2048 (n - 0xD800)) := by
  unfold ofCode
  rw [if_pos h]

theorem ofCode_of_outside {n : Nat} (h : ¬ (0xD800 ≤ n ∧ n < 0xE000)) :
    ofCode n = char (Char.ofNat n) := by
  unfold ofCode
  rw [if_neg h]

theorem ofCode_code (p : Point) : ofCode p.code = p := by
  cases p with
  | char c =>
    have h : ¬ (0xD800 ≤ c.toNat ∧ c.toNat < 0xE000) := by
      have := c.valid
      simp only [UInt32.isValidChar, Nat.isValidChar] at this
      simp only [Char.toNat]
      omega
    show ofCode c.toNat = char c
    rw [ofCode_of_outside h, Char.ofNat_toNat]
  | surrogate n =>
    show ofCode (0xD800 + n.val) = surrogate n
    rw [ofCode_of_inside (by omega)]
    simp

theorem code_injective {p q : Point} (h : p.code = q.code) : p = q := by
  rw [← ofCode_code p, ← ofCode_code q, h]

end Point

namespace Text

def ofString (s : String) : Text := s.toList.map .char

instance : Coe String Text := ⟨ofString⟩

/-- The text as a string, if no surrogate stands in it. -/
def toString? (t : Text) : Option String :=
  (t.mapM fun
    | Point.char c => some c
    | Point.surrogate _ => none).map String.ofList

/-- Strict order by code points; a proper beginning comes first. -/
def precedes : Text → Text → Bool
  | [], [] => false
  | [], _ :: _ => true
  | _ :: _, [] => false
  | a :: s, b :: t => if a.code = b.code then precedes s t else a.code < b.code

/-- Line and column, from one, of the point that follows `before`. -/
def lineAndColumn (before : Text) : Nat × Nat :=
  (before.count (.char '\n') + 1, (before.reverse.takeWhile (· ≠ .char '\n')).length + 1)

end Text

example : Text.precedes (Text.ofString "B") (Text.ofString "a") := by decide
example : Point.join (.ofCode 0xD83D) (.ofCode 0xDE00) = .char '😀' := by decide

end TextExpr
