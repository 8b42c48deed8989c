import ControlPlane.Json.Record

/-! Listeners of a sidecar as the control plane holds them. -/
namespace ControlPlane

structure Listener.Address where
  host : String
  port : Int64
  deriving DecidableEq, Repr

structure Listener where
  /-- The ID is read and never sent. -/
  id : String
  repoTypes : List String
  address : Listener.Address
  deriving DecidableEq, Repr

namespace Listener

namespace Address

def toJson (a : Address) : Json :=
  .obj (Json.textMember "host" a.host ++ [("port", .number a.port)])

def ofJson? (j : Json) : Option Address := do
  let given ← j.fields? ["host", "port"]
  return {
    host := ← Json.fieldD? given "host" Json.text? ""
    port := ← Json.field? given "port" Json.int64? }

end Address

def toJson (l : Listener) : Json :=
  .obj [("repoTypes", .strings l.repoTypes), ("address", l.address.toJson)]

def ofJson? (j : Json) : Option Listener := do
  let given ← j.fields? ["id", "repoTypes", "address"]
  return {
    id := ← Json.fieldD? given "id" Json.text? ""
    repoTypes := ← Json.fieldD? given "repoTypes" Json.texts? []
    address := ← Json.field? given "address" Address.ofJson? }

/-- The listeners of a sidecar, which are listed at once. -/
def listOfJson? (j : Json) : Option (List Listener) := do
  Json.fieldD? (← j.fields? ["listenerConfigs"]) "listenerConfigs" (Json.list? ofJson?) []

def listPath (sidecarId : String) : String := "/v1/sidecars/" ++ sidecarId ++ "/listeners"

end Listener
end ControlPlane
