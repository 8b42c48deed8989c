import ControlPlane.DataSource
import ControlPlane.Sidecar.Basic
import ControlPlane.Value

/-! Looking up the ID of a sidecar by its name. -/
namespace ControlPlane.Sidecar

structure IdQuery where
  id : Field String
  sidecarName : Field String
  deriving DecidableEq, Repr

open Exchange (toValue)

instance : Exchange IdQuery where
  toValue q := .object [("id", toValue q.id), ("sidecar_name", toValue q.sidecarName)]
  ofValue? v := do
    return { id := ← v.attribute? "id", sidecarName := ← v.attribute? "sidecar_name" }

/-- The first of the sidecars with a name counts. -/
def idOf? (name : String) (entries : List (String × Sidecar)) : Option String :=
  (entries.find? (·.2.name = name)).map Prod.fst

def idLookup : DataSource IdQuery where
  name := "sidecar_id"
  schema := .of (.plain "Retrieves the ID of a sidecar given its name.")
    [("id", .computed .string "ID of the sidecar."),
      ("sidecar_name", .required .string "Name of the sidecar.")]
    []
  lookUp k q := do
    let name ← liftExcept (q.sidecarName.require "sidecar_name")
    let entries ← k.getJson (k.client.url "/v1/sidecars") [] (Json.list? entryOfJson?)
    match idOf? name entries with
    | some id => return { q with id := .known id }
    | none => throw (.noMatch "sidecar" name)

end ControlPlane.Sidecar
