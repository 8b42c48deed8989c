import ControlPlane.Resource.Basic
import ControlPlane.Value

/-! Integrations that send the activity of sidecars to Datadog, as managed objects. -/
namespace ControlPlane

structure Datadog where
  name : String
  /-- The key may be left out of a reply. -/
  apiKey : Option String
  deriving DecidableEq, Repr

namespace Datadog

def toJson (d : Datadog) : Json :=
  .obj [("name", .str d.name), ("apiKey", (d.apiKey.map Json.str).getD .null)]

def ofJson? (j : Json) : Option Datadog := do
  let given ← j.fields? ["name", "apiKey"]
  return {
    name := ← Json.field? given "name" Json.text?
    apiKey := ← Json.fieldD? given "apiKey" (Json.option? Json.text?) none }

structure State where
  id : Field String
  name : Field String
  apiKey : Field String
  deriving DecidableEq, Repr

open Exchange (toValue)

instance : Exchange State where
  toValue s := .object [("id", toValue s.id), ("name", toValue s.name),
    ("api_key", toValue s.apiKey)]
  ofValue? v := do
    return {
      id := ← v.attribute? "id"
      name := ← v.attribute? "name"
      apiKey := ← v.attribute? "api_key" }

def schema : Schema := .of (.plain "Sends the activity of the sidecars to Datadog.")
  [("id", .id),
    ("name", .required .string
      "Integration name that will be used internally in the control plane."),
    ("api_key", .sensitive (.required .string "Datadog API key."))]
  []

def ofState (s : State) : Except Failure Datadog := do
  let name ← s.name.require "name"
  let apiKey ← s.apiKey.require "api_key"
  return { name, apiKey := some apiKey }

/-- A key that is not told, or told empty, stays as it is. -/
def refresh (d : Datadog) (s : State) : State where
  id := s.id
  name := .known d.name
  apiKey := match d.apiKey.filter (· ≠ "") with
    | some key => .known key
    | none => s.apiKey

def collectionUrl (_ : State) (base : String) : Except Failure String :=
  .ok (base ++ "/v1/integrations/datadog")

def objectUrl (s : State) (base : String) : Except Failure String := do
  return base ++ "/v1/integrations/datadog/" ++ (← s.id.require "id")

def body (s : State) : Except Failure Json := (ofState s).map toJson

def imported (id : String) : State := ⟨.known id, .null, .null⟩

def resource : Resource State where
  name := "integration_datadog"
  schema := schema
  markComputed s := { s with id := .unknown }
  importState id := .ok (imported id)
  create :=
    { resource := "integration_datadog", kind := .create, method := .post, url := collectionUrl
      body := some body
      response := some (.of (Json.only? "id" Json.text?) fun id s => { s with id := .known id }) }
  read :=
    { resource := "integration_datadog", kind := .read, method := .get, url := objectUrl
      response := some (.of ofJson? refresh) }
  update := some
    { resource := "integration_datadog", kind := .update, method := .put, url := objectUrl
      body := some body }
  delete :=
    { resource := "integration_datadog", kind := .delete, method := .delete, url := objectUrl }

end Datadog
end ControlPlane
