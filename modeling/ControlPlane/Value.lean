import ControlPlane.Attribute
import ControlPlane.Text.Decimal

/-!
Untyped values, as configurations and states are exchanged. A typed state gives and takes them
attribute by attribute.
-/
namespace ControlPlane

inductive Value where
  | null
  | unknown
  | bool (b : Bool)
  | number (n : Int)
  | text (s : String)
  | list (elements : List Value)
  | object (members : List (String × Value))
  deriving Inhabited

/-- Types whose values can be exchanged. -/
class Exchange (α : Type) where
  toValue : α → Value
  ofValue? : Value → Option α

namespace Value
variable {α : Type}

/-- An attribute that every object of its type has. -/
def attribute? [Exchange α] (v : Value) (name : String) : Option α :=
  match v with
  | .object members => (members.lookup name).bind Exchange.ofValue?
  | _ => none

end Value

namespace Exchange
variable {α : Type}

instance : Exchange Bool where
  toValue := .bool
  ofValue?
    | .bool b => some b
    | _ => none

instance : Exchange Int64 where
  toValue n := .number n.toInt
  ofValue?
    | .number n => Text.Decimal.toInt64? n
    | _ => none

instance : Exchange String where
  toValue := .text
  ofValue?
    | .text s => some s
    | _ => none

instance [Exchange α] : Exchange (List α) where
  toValue xs := .list (xs.map toValue)
  ofValue?
    | .list vs => vs.mapM ofValue?
    | _ => none

instance [Exchange α] : Exchange (Field α) where
  toValue
    | .null => .null
    | .unknown => .unknown
    | .known a => toValue a
  ofValue?
    | .null => some .null
    | .unknown => some .unknown
    | v => (ofValue? v).map .known

end Exchange
end ControlPlane
