import TextExpr.Double.Decimal
import TextExpr.Json
import TextExpr.Text.Quoted

/-! The compact text of a document. -/
namespace TextExpr.Json

mutual

def print : Json → Text
  | .null => Text.ofString "null"
  | .bool true => Text.ofString "true"
  | .bool false => Text.ofString "false"
  | .int i => Numeral.ofInt i
  | .float x => x.scientificText
  | .str t => Quoted.encode t
  | .list [] => Text.ofString "[]"
  | .list (first :: rest) => .char '[' :: print first ++ printItems rest
  | .obj [] => Text.ofString "\x7b\x7d"
  | .obj ((name, value) :: rest) =>
    .char '\x7b' :: Quoted.encode name ++ .char ':' :: print value ++ printMembers rest

/-- What follows the first item. -/
def printItems : List Json → Text
  | [] => [.char ']']
  | item :: rest => .char ',' :: print item ++ printItems rest

/-- What follows the first member. -/
def printMembers : List (Text × Json) → Text
  | [] => [.char '\x7d']
  | (name, value) :: rest =>
    .char ',' :: Quoted.encode name ++ .char ':' :: print value ++ printMembers rest

end

example : print (.obj [([], .list [.int 1, .null]), (Text.ofString "k", .bool true)]) =
    Text.ofString "\x7b\"\":[1,null],\"k\":true\x7d" := by decide +kernel

end TextExpr.Json
