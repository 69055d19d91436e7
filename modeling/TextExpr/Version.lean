import TextExpr.Text

/-! The version of the program. -/
namespace TextExpr.Version

def installed : Text := Text.ofString "0.3.0"

/-- The recorded version, or a stand-in where none is recorded. -/
def ofRecord (record : Option Text) : Text := record.getD (Text.ofString "0.0.0+unknown")

end TextExpr.Version
