import ControlPlane.Listener.Basic
import ControlPlane.Repository.Basic
import ControlPlane.Schema
import ControlPlane.Validation
import ControlPlane.Value

/-! The configuration of a listener. -/
namespace ControlPlane.Listener

structure AddressState where
  host : Field String
  port : Field Int64
  deriving DecidableEq, Repr

structure State where
  id : Field String
  sidecarId : Field String
  listenerId : Field String
  repoTypes : StringList
  address : Field AddressState
  deriving DecidableEq, Repr

open Exchange (toValue)

instance : Exchange AddressState where
  toValue a := .object [("host", toValue a.host), ("port", toValue a.port)]
  ofValue? v := do
    return { host := ← v.attribute? "host", port := ← v.attribute? "port" }

instance : Exchange State where
  toValue s := .object [("id", toValue s.id), ("sidecar_id", toValue s.sidecarId),
    ("listener_id", toValue s.listenerId), ("repo_types", toValue s.repoTypes),
    ("network_address", toValue s.address)]
  ofValue? v := do
    return {
      id := ← v.attribute? "id"
      sidecarId := ← v.attribute? "sidecar_id"
      listenerId := ← v.attribute? "listener_id"
      repoTypes := ← v.attribute? "repo_types"
      address := ← v.attribute? "network_address" }

def schema : Schema := .of (.plain "Manages a sidecar listener.")
  [("id", .id),
    ("sidecar_id", .required .string "ID of the sidecar the listener belongs to."),
    ("listener_id", .computed .string "ID of the listener."),
    ("repo_types", .required .stringList
      s!"Repository types served by the listener, among: {Text.commas Repository.types}.")]
  [("network_address", .single, .mk (.plain "Address the listener binds to.")
      [("host", .optional .string "Host the listener binds to. Empty for all interfaces."),
        ("port", .required .number "Port the listener binds to.")] [])]

def validate (s : State) : List Diagnostic :=
  Validation.notEmpty (.of "repo_types") s.repoTypes ++
    Validation.eachOneOf (.of "repo_types") s.repoTypes Repository.types ++
    match s.address with
    | .known a => Validation.port ((Path.of "network_address").attr "port") a.port
    | _ => []

end ControlPlane.Listener
