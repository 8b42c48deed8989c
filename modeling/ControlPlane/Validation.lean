import ControlPlane.Attribute
import ControlPlane.Diagnostic
import ControlPlane.Text.Decimal
import ControlPlane.Text.Enumeration

/-!
Checks on configured values. A value that is not known yet passes them, since it can still turn
out right.
-/
namespace ControlPlane.Validation
variable {α : Type}

def oneOf (path : Path) (value : Field String) (allowed : List String) : List Diagnostic :=
  match value with
  | .known s =>
    if s ∈ allowed then []
    else
      [{ summary := s!"Invalid value `{s}`"
         detail := s!"Expected one of: {Text.commas allowed}", path }]
  | _ => []

def eachOneOf (path : Path) (values : StringList) (allowed : List String) : List Diagnostic :=
  values.elems.zipIdx.flatMap fun (value, i) => oneOf (path.item i) value allowed

def port (path : Path) (value : Field Int64) : List Diagnostic :=
  match value with
  | .known n =>
    if 1 ≤ n ∧ n ≤ 65535 then []
    else
      [{ summary := s!"Invalid port {Text.Decimal.render n}"
         detail := "Ports must be between 1 and 65535", path }]
  | _ => []

def notEmpty (path : Path) (values : Field (List α)) : List Diagnostic :=
  match values with
  | .known [] => [{ summary := "At least one element is required", path }]
  | _ => []

/-- Whether a block is set. A list without blocks counts as none. -/
def presence (blocks : Field (List α)) : Field Unit :=
  match blocks with
  | .known (_ :: _) => .known ()
  | .unknown => .unknown
  | _ => .null

/-- Exactly one of the alternatives is set. Nothing is said while one of them is unknown. -/
def exactlyOneOf (path : Path) (alternatives : List (String × Field Unit)) : List Diagnostic :=
  if alternatives.any (·.2.isUnknown) then []
  else
    let given := (alternatives.filter (·.2.isKnown)).map Prod.fst
    if given.length = 1 then []
    else
      let all := Text.codes (alternatives.map Prod.fst)
      let got := if given = [] then "none" else Text.codes given
      [{ summary := "Exactly one configuration must be given"
         detail := s!"Expected exactly one of {all}, got {got}", path }]

end ControlPlane.Validation
