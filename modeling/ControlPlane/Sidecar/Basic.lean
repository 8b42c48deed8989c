import ControlPlane.Json.Record

/-! Sidecars as the control plane holds them. -/
namespace ControlPlane

structure Sidecar where
  /-- The ID is read and never sent. -/
  id : String
  name : String
  labels : List String
  userEndpoint : String
  activityLogIntegrationId : String
  deploymentMethod : String
  deriving DecidableEq, Repr

namespace Sidecar

def deploymentMethods : List String :=
  ["docker", "cft-ec2", "tf-aws-ec2", "terraformGKE", "helm3", "automated", "custom",
    "terraform", "singleContainer", "linux"]

def toJson (s : Sidecar) : Json :=
  .obj ([("name", .str s.name), ("labels", .strings s.labels)] ++
    Json.textMember "userEndpoint" s.userEndpoint ++
    Json.textMember "activityLogIntegrationID" s.activityLogIntegrationId ++
    [("properties", .obj [("deploymentMethod", .str s.deploymentMethod)])])

def ofJson? (j : Json) : Option Sidecar := do
  let given ← j.fields?
    ["id", "name", "labels", "userEndpoint", "activityLogIntegrationID", "properties"]
  return {
    id := ← Json.fieldD? given "id" Json.text? ""
    name := ← Json.field? given "name" Json.text?
    labels := ← Json.fieldD? given "labels" Json.texts? []
    userEndpoint := ← Json.fieldD? given "userEndpoint" Json.text? ""
    activityLogIntegrationId := ← Json.fieldD? given "activityLogIntegrationID" Json.text? ""
    deploymentMethod :=
      ← Json.fieldD? given "properties" (Json.only? "deploymentMethod" Json.text?) "" }

/-- A sidecar in the list of all sidecars, where the ID stands beside it. -/
def entryOfJson? (j : Json) : Option (String × Sidecar) := do
  let given ← j.fields? ["id", "sidecar"]
  return (← Json.field? given "id" Json.text?, ← Json.field? given "sidecar" ofJson?)

end Sidecar
end ControlPlane
