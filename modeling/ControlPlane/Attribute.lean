import ControlPlane.Field

/-!
How optional attributes travel. An optional value that is not known is sent as the empty, zero or
false value of its type, and such a value is read back as null.
-/
namespace ControlPlane

/-- A list of strings whose elements can be null or unknown. -/
abbrev StringList := Field (List (Field String))

namespace Field

def text (x : Field String) : String := x.getD ""

def ofText (s : String) : Field String := if s = "" then .null else .known s

def ofNumber (n : Int64) : Field Int64 := if n = 0 then .null else .known n

/-- A false flag is null, unless the state already gives the flag. -/
def ofFlag (b : Bool) (prior : Field Bool) : Field Bool :=
  if b || prior.isKnown then .known b else .null

/-- The known strings of a known list. -/
def strings (xs : StringList) : List String := xs.elems.filterMap known?

def knownStrings (vs : List String) : StringList := .known (vs.map .known)

/-- An empty list is null, unless the state already holds an empty list. -/
def ofStrings (vs : List String) (prior : StringList) : StringList :=
  if vs = [] ∧ prior ≠ .known [] then .null else knownStrings vs

end Field
end ControlPlane
