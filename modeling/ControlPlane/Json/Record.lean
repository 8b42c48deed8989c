import ControlPlane.Json.Basic

/-!
Reading records. A record is an object, whose further members are ignored, or an array of the
fields in their order. A field may have a value for when it is left out.
-/
namespace ControlPlane.Json

/-- The fields that a record gives. No field may be given twice. -/
def fields? (names : List String) : Json → Option (List (String × Json))
  | .obj members =>
    let given := members.filter fun m => names.contains m.1
    if (given.map Prod.fst).Nodup then some given else none
  | .arr elements => if elements.length ≤ names.length then some (names.zip elements) else none
  | _ => none

variable {α : Type}

def field? (given : List (String × Json)) (name : String) (read : Json → Option α) : Option α :=
  (given.lookup name).bind read

def fieldD? (given : List (String × Json)) (name : String) (read : Json → Option α)
    (absent : α) : Option α :=
  match given.lookup name with
  | none => some absent
  | some value => read value

/-- The value in a record of one field. -/
def only? (name : String) (read : Json → Option α) (j : Json) : Option α := do
  field? (← j.fields? [name]) name read

def text? : Json → Option String
  | .str s => some s
  | _ => none

def bool? : Json → Option Bool
  | .bool b => some b
  | _ => none

def int64? : Json → Option Int64
  | .int n => Text.Decimal.toInt64? n
  | _ => none

/-- A number of seconds, which 64 bits without sign can hold. -/
def seconds? : Json → Option Nat
  | .int n => if 0 ≤ n ∧ n.toNat < UInt64.size then some n.toNat else none
  | _ => none

def list? (read : Json → Option α) : Json → Option (List α)
  | .arr elements => elements.mapM read
  | _ => none

def texts? : Json → Option (List String) := list? text?

/-- Null stands for no value. -/
def option? (read : Json → Option α) : Json → Option (Option α)
  | .null => some none
  | value => (read value).map some

end ControlPlane.Json
