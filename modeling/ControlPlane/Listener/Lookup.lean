import ControlPlane.DataSource
import ControlPlane.Listener.State

/-! Looking up the listeners of a sidecar by repository type and port. -/
namespace ControlPlane.Listener

structure Item where
  listenerId : Field String
  sidecarId : Field String
  repoTypes : StringList
  address : Field AddressState
  deriving DecidableEq, Repr

structure Query where
  sidecarId : Field String
  repoType : Field String
  port : Field Int64
  found : Field (List Item)
  deriving DecidableEq, Repr

open Exchange (toValue)

instance : Exchange Item where
  toValue i := .object [("listener_id", toValue i.listenerId), ("sidecar_id", toValue i.sidecarId),
    ("repo_types", toValue i.repoTypes), ("network_address", toValue i.address)]
  ofValue? v := do
    return {
      listenerId := ← v.attribute? "listener_id"
      sidecarId := ← v.attribute? "sidecar_id"
      repoTypes := ← v.attribute? "repo_types"
      address := ← v.attribute? "network_address" }

instance : Exchange Query where
  toValue q := .object [("sidecar_id", toValue q.sidecarId), ("repo_type", toValue q.repoType),
    ("port", toValue q.port), ("listener_list", toValue q.found)]
  ofValue? v := do
    return {
      sidecarId := ← v.attribute? "sidecar_id"
      repoType := ← v.attribute? "repo_type"
      port := ← v.attribute? "port"
      found := ← v.attribute? "listener_list" }

def toItem (sidecarId : String) (l : Listener) : Item where
  listenerId := .known l.id
  sidecarId := .known sidecarId
  repoTypes := .knownStrings l.repoTypes
  address := .known { host := .ofText l.address.host, port := .known l.address.port }

def isWanted (q : Query) (l : Listener) : Bool :=
  q.repoType.known?.all (l.repoTypes.contains ·) && q.port.known?.all (l.address.port = ·)

def lookup : DataSource Query where
  name := "sidecar_listener"
  schema := .of
    (.plain ("Retrieves the listeners of a sidecar, " ++
      "optionally filtered by repository type and port."))
    [("sidecar_id", .required .string "ID of the sidecar."),
      ("repo_type", .optional .string "Only keep the listeners serving this repository type."),
      ("port", .optional .number "Only keep the listeners bound to this port."),
      ("listener_list", .computed (.nested .list
          [("listener_id", .computed .string "ID of the listener."),
            ("sidecar_id", .computed .string "ID of the sidecar."),
            ("repo_types", .computed .stringList "Repository types served by the listener."),
            ("network_address", .computed (.nested .single
                [("host", .computed .string "Host the listener is bound to."),
                  ("port", .computed .number "Port the listener is bound to.")])
              "Address of the listener.")])
        "Matching listeners.")]
    []
  validate q :=
    Validation.oneOf (.of "repo_type") q.repoType Repository.types ++
      Validation.port (.of "port") q.port
  lookUp k q := do
    let sidecarId ← liftExcept (q.sidecarId.require "sidecar_id")
    let listeners ← k.getJson (k.client.url (listPath sidecarId)) [] listOfJson?
    return { q with found := .known ((listeners.filter (isWanted q)).map (toItem sidecarId)) }

end ControlPlane.Listener
