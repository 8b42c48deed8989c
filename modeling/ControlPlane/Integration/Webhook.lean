import ControlPlane.Resource.Basic
import ControlPlane.Value

/-! Webhooks that alerts are sent to, as managed objects. They differ by the service behind them. -/
namespace ControlPlane

structure Webhook where
  name : String
  /-- The address may be left out of a reply. -/
  url : Option String
  deriving DecidableEq, Repr

namespace Webhook

inductive Service where
  | slack
  | microsoftTeams
  deriving DecidableEq, Repr

namespace Service

def resourceName : Service → String
  | .slack => "integration_slack_alerts"
  | .microsoftTeams => "integration_microsoft_teams"

def segment : Service → String
  | .slack => "slack"
  | .microsoftTeams => "teams"

def title : Service → String
  | .slack => "Slack"
  | .microsoftTeams => "Microsoft Teams"

end Service

def toJson (w : Webhook) : Json :=
  .obj [("name", .str w.name), ("url", (w.url.map Json.str).getD .null)]

def ofJson? (j : Json) : Option Webhook := do
  let given ← j.fields? ["name", "url"]
  return {
    name := ← Json.field? given "name" Json.text?
    url := ← Json.fieldD? given "url" (Json.option? Json.text?) none }

structure State where
  id : Field String
  name : Field String
  url : Field String
  deriving DecidableEq, Repr

open Exchange (toValue)

instance : Exchange State where
  toValue s := .object [("id", toValue s.id), ("name", toValue s.name), ("url", toValue s.url)]
  ofValue? v := do
    return {
      id := ← v.attribute? "id"
      name := ← v.attribute? "name"
      url := ← v.attribute? "url" }

def schema (service : Service) : Schema := .of (.plain s!"Sends alerts to {service.title}.")
  [("id", .id),
    ("name", .required .string
      "Integration name that will be used internally in the control plane."),
    ("url", .sensitive (.required .string s!"{service.title} webhook URL."))]
  []

def ofState (s : State) : Except Failure Webhook := do
  let name ← s.name.require "name"
  let url ← s.url.require "url"
  return { name, url := some url }

/-- An address that is not told, or told empty, stays as it is. -/
def refresh (w : Webhook) (s : State) : State where
  id := s.id
  name := .known w.name
  url := match w.url.filter (· ≠ "") with
    | some url => .known url
    | none => s.url

def collectionUrl (service : Service) (_ : State) (base : String) : Except Failure String :=
  .ok (base ++ "/v1/integrations/notifications/" ++ service.segment)

def objectUrl (service : Service) (s : State) (base : String) : Except Failure String := do
  return (← collectionUrl service s base) ++ "/" ++ (← s.id.require "id")

def body (s : State) : Except Failure Json := (ofState s).map toJson

def imported (id : String) : State := ⟨.known id, .null, .null⟩

def resource (service : Service) : Resource State where
  name := service.resourceName
  schema := schema service
  markComputed s := { s with id := .unknown }
  importState id := .ok (imported id)
  create :=
    { resource := service.resourceName, kind := .create, method := .post
      url := collectionUrl service, body := some body
      response := some (.of (Json.only? "id" Json.text?) fun id s => { s with id := .known id }) }
  read :=
    { resource := service.resourceName, kind := .read, method := .get, url := objectUrl service
      response := some (.of ofJson? refresh) }
  update := some
    { resource := service.resourceName, kind := .update, method := .put, url := objectUrl service
      body := some body }
  delete :=
    { resource := service.resourceName, kind := .delete, method := .delete
      url := objectUrl service }

end Webhook
end ControlPlane
