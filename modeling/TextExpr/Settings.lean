import TextExpr.Log
import TextExpr.Unicode.Lowercase

/-! How a run is set up. The word that asks for traces is read without regard to case
and outer blanks. -/
namespace TextExpr

structure Settings where
  trace : Bool := false
  deriving DecidableEq, Repr

namespace Settings

def truthy : List Text :=
  [Text.ofString "1", Text.ofString "true", Text.ofString "yes", Text.ofString "on"]

def falsy : List Text :=
  [[], Text.ofString "0", Text.ofString "false", Text.ofString "no", Text.ofString "off"]

/-- The settings for a word, which may be absent. A word of no meaning turns traces off
and is reported. -/
def read (word : Option Text) : Run Settings :=
  let plain := Unicode.strip (Unicode.lowercase (word.getD []))
  if truthy.contains plain then pure ⟨true⟩
  else if falsy.contains plain then pure ⟨false⟩
  else do
    Run.write (.unknownSetting plain)
    return ⟨false⟩

end Settings

end TextExpr
