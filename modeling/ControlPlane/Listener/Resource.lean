import ControlPlane.ComposedId
import ControlPlane.Listener.State
import ControlPlane.Resource.Basic

/-! Listeners as managed objects. The ID of one is composed of the sidecar's and its own. -/
namespace ControlPlane.Listener

def ofState (s : State) : Except Failure Listener := do
  let address ← s.address.require "network_address"
  let port ← address.port.require "network_address.port"
  return {
    id := ""
    repoTypes := s.repoTypes.strings
    address := { host := address.host.text, port } }

def refresh (l : Listener) (s : State) : State where
  id := s.id
  sidecarId := s.sidecarId
  listenerId := s.listenerId
  repoTypes := .ofStrings l.repoTypes s.repoTypes
  address := .known { host := .ofText l.address.host, port := .known l.address.port }

/-- Takes the ID that the control plane gives to a new listener. -/
def created (id : String) : Writer State Unit := do
  let sidecarId ← liftExcept ((← get).sidecarId.require "sidecar_id")
  modify fun s => { s with id := .known (ComposedId.join ComposedId.separator [sidecarId, id]) }
  modify fun s => { s with listenerId := .known id }

def collectionUrl (s : State) (base : String) : Except Failure String := do
  return base ++ listPath (← s.sidecarId.require "sidecar_id")

def objectUrl (s : State) (base : String) : Except Failure String := do
  return (← collectionUrl s base) ++ "/" ++ (← s.listenerId.require "listener_id")

def body (s : State) : Except Failure Json :=
  (ofState s).map fun l => .obj [("listener", l.toJson)]

def importState : String → Except Failure State :=
  ComposedId.importPair fun id sidecarId listenerId =>
    ⟨.known id, .known sidecarId, .known listenerId, .null, .null⟩

def resource : Resource State where
  name := "sidecar_listener"
  schema := schema
  validate := validate
  markComputed s := { s with id := .unknown, listenerId := .unknown }
  replaceTriggers prior proposed :=
    Resource.changed "sidecar_id" prior.sidecarId proposed.sidecarId
  importState := importState
  create :=
    { resource := "sidecar_listener", kind := .create, method := .post, url := collectionUrl
      body := some body
      response := some fun j => (Json.only? "listenerId" Json.text? j).map created }
  read :=
    { resource := "sidecar_listener", kind := .read, method := .get, url := objectUrl
      response := some (.of (Json.only? "listenerConfig" ofJson?) refresh) }
  update := some
    { resource := "sidecar_listener", kind := .update, method := .put, url := objectUrl
      body := some body }
  delete :=
    { resource := "sidecar_listener", kind := .delete, method := .delete, url := objectUrl }

end ControlPlane.Listener
