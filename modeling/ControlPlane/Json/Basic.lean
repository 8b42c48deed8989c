import ControlPlane.Text.Decimal

/-! JSON values. -/
namespace ControlPlane

/--
A JSON value. `garbled` stands for what holds ill-formed text: a string, or an object one of whose
keys is ill-formed. It is told apart from other values and has no content.
-/
inductive Json where
  | null
  | bool (b : Bool)
  /-- A number without fraction and exponent, other than minus zero. -/
  | int (n : Int)
  /-- Any other number, as it is written. -/
  | real (literal : String)
  | str (s : String)
  | arr (elements : List Json)
  | obj (members : List (String × Json))
  | garbled
  deriving Inhabited

namespace Json

def number (n : Int64) : Json := .int n.toInt

def strings (vs : List String) : Json := .arr (vs.map .str)

/-- A member that is left out when `present` fails. -/
def memberIf (present : Bool) (key : String) (value : Json) : List (String × Json) :=
  if present then [(key, value)] else []

/-- Optional texts are left out when they are empty. -/
def textMember (key s : String) : List (String × Json) := memberIf (s ≠ "") key (.str s)

def optionMember {α : Type} (key : String) (encode : α → Json) : Option α → List (String × Json)
  | none => []
  | some a => [(key, encode a)]

end Json
end ControlPlane
