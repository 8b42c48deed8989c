/-! Lists within a sentence. -/
namespace ControlPlane.Text

def commas (items : List String) : String := ", ".intercalate items

/-- The items as code, with commas between them. -/
def codes (items : List String) : String := "`" ++ "`, `".intercalate items ++ "`"

end ControlPlane.Text
