import ControlPlane.Resource.Basic
import ControlPlane.Sidecar.Basic
import ControlPlane.Validation
import ControlPlane.Value

/-! Sidecars as managed objects. -/
namespace ControlPlane.Sidecar

structure State where
  id : Field String
  name : Field String
  deploymentMethod : Field String
  labels : StringList
  userEndpoint : Field String
  activityLogIntegrationId : Field String
  deriving DecidableEq, Repr

open Exchange (toValue)

instance : Exchange State where
  toValue s := .object [("id", toValue s.id), ("name", toValue s.name),
    ("deployment_method", toValue s.deploymentMethod), ("labels", toValue s.labels),
    ("user_endpoint", toValue s.userEndpoint),
    ("activity_log_integration_id", toValue s.activityLogIntegrationId)]
  ofValue? v := do
    return {
      id := ← v.attribute? "id"
      name := ← v.attribute? "name"
      deploymentMethod := ← v.attribute? "deployment_method"
      labels := ← v.attribute? "labels"
      userEndpoint := ← v.attribute? "user_endpoint"
      activityLogIntegrationId := ← v.attribute? "activity_log_integration_id" }

def schema : Schema := .of
  (.markdown "Manages [sidecars](https://cyral.com/docs/sidecars/sidecar-manage).")
  [("id", .id),
    ("name", .required .string
      "Sidecar name that will be used internally in the control plane."),
    ("deployment_method", .required .string
      s!"Deployment method used by the sidecar, one of: {Text.commas deploymentMethods}."),
    ("labels", .optional .stringList "Labels that can be attached to the sidecar."),
    ("user_endpoint", .optional .string "User-defined endpoint used to reach the sidecar."),
    ("activity_log_integration_id", .optional .string
      "ID of the logging integration receiving the activity logs.")]
  []

def validate (s : State) : List Diagnostic :=
  Validation.oneOf (.of "deployment_method") s.deploymentMethod deploymentMethods

def ofState (s : State) : Except Failure Sidecar := do
  let name ← s.name.require "name"
  let deploymentMethod ← s.deploymentMethod.require "deployment_method"
  return {
    id := "", name, deploymentMethod
    labels := s.labels.strings
    userEndpoint := s.userEndpoint.text
    activityLogIntegrationId := s.activityLogIntegrationId.text }

def refresh (c : Sidecar) (s : State) : State where
  id := s.id
  name := .known c.name
  deploymentMethod := .known c.deploymentMethod
  labels := .ofStrings c.labels s.labels
  userEndpoint := .ofText c.userEndpoint
  activityLogIntegrationId := .ofText c.activityLogIntegrationId

def collectionUrl (_ : State) (base : String) : Except Failure String :=
  .ok (base ++ "/v1/sidecars")

def objectUrl (s : State) (base : String) : Except Failure String := do
  return base ++ "/v1/sidecars/" ++ (← s.id.require "id")

def body (s : State) : Except Failure Json := (ofState s).map toJson

def imported (id : String) : State := ⟨.known id, .null, .null, .null, .null, .null⟩

def resource : Resource State where
  name := "sidecar"
  schema := schema
  validate := validate
  markComputed s := { s with id := .unknown }
  importState id := .ok (imported id)
  create :=
    { resource := "sidecar", kind := .create, method := .post, url := collectionUrl
      body := some body
      response := some (.of (Json.only? "ID" Json.text?) fun id s => { s with id := .known id }) }
  read :=
    { resource := "sidecar", kind := .read, method := .get, url := objectUrl
      response := some (.of ofJson? refresh) }
  update := some
    { resource := "sidecar", kind := .update, method := .put, url := objectUrl
      body := some body }
  delete := { resource := "sidecar", kind := .delete, method := .delete, url := objectUrl }

end ControlPlane.Sidecar
