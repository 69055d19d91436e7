import TextExpr.Pattern.Syntax
import TextExpr.Text
import TextExpr.Unicode.Casing
import TextExpr.Unicode.Decimal
import TextExpr.Unicode.Space
import TextExpr.Unicode.Word

/-! Tests on one point. Where case is ignored a test looks at the lower-case form. -/
namespace TextExpr.Pattern

inductive Folding where
  | exact
  | ascii
  | unicode
  deriving DecidableEq, Repr

def lowerAscii (n : Nat) : Nat := if 0x41 ≤ n && n ≤ 0x5A then n + 0x20 else n

def upperAscii (n : Nat) : Nat := if 0x61 ≤ n && n ≤ 0x7A then n - 0x20 else n

namespace Folding

def fold : Folding → Nat → Nat
  | exact, n => n
  | ascii, n => lowerAscii n
  | unicode, n => Unicode.lower n

/-- The folded points that count as the folded point `n`. -/
def likes : Folding → Nat → List Nat
  | unicode, n => n :: Unicode.siblings n
  | _, n => [n]

/-- The points that fold to `n`. -/
def sources : Folding → Nat → List Nat
  | exact, n => [n]
  | ascii, n => [n, upperAscii n]
  | unicode, n => Unicode.lowerSources n

end Folding

def Category.holds (ascii : Bool) (n : Nat) : Category → Bool
  | digit => if ascii then 0x30 ≤ n && n ≤ 0x39 else Unicode.isDecimal n
  | space => if ascii then n == 0x20 || 0x09 ≤ n && n ≤ 0x0D else Unicode.isSpace n
  | word =>
    if ascii then
      0x30 ≤ n && n ≤ 0x39 || 0x41 ≤ n && n ≤ 0x5A || n == 0x5F || 0x61 ≤ n && n ≤ 0x7A
    else Unicode.isWord n

def inRange (lo hi n : Nat) : Bool := lo ≤ n && n ≤ hi

/-- Above this a set does not fold its own points, and a range takes upper-case forms. -/
def foldedPlane : Nat := 0x10000

def rangeHolds (folding : Folding) (lo hi n : Nat) : Bool :=
  match folding with
  | .exact => inRange lo hi n
  | _ =>
    (folding.likes n).any (fun like =>
      (folding.sources like).any fun c => c < foldedPlane && inRange lo hi c) ||
    foldedPlane ≤ hi && (inRange lo hi n || inRange lo hi (Unicode.upper n))

/-- Whether a member of a set holds of a folded point. -/
def Member.holds (folding : Folding) (ascii : Bool) (n : Nat) : Member → Bool
  | point m =>
    if m < foldedPlane then (folding.likes (folding.fold m)).contains n else m == n
  | range lo hi => rangeHolds folding lo hi n
  | category c negated => c.holds ascii n != negated

inductive PointTest where
  | all
  | notNewline
  | single (folding : Folding) (negated : Bool) (n : Nat)
  | set (folding : Folding) (ascii negated : Bool) (members : List Member)

def PointTest.accepts (p : Point) : PointTest → Bool
  | all => true
  | notNewline => p != .char '\n'
  | single folding negated n =>
    (folding.likes (folding.fold n)).contains (folding.fold p.code) != negated
  | set folding ascii negated members =>
    members.any (·.holds folding ascii (folding.fold p.code)) != negated

example : (PointTest.single .unicode false 0x6B).accepts (.ofCode 0x212A) := by decide +kernel

end TextExpr.Pattern
