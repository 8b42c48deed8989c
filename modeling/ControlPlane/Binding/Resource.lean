import ControlPlane.Binding.State
import ControlPlane.ComposedId
import ControlPlane.Resource.Basic

/-! Bindings as managed objects. The ID of one is composed of the sidecar's and its own. -/
namespace ControlPlane.Binding

def Reference.ofState (r : ReferenceState) : Except Failure Reference := do
  let listenerId ← r.listenerId.require "listener_binding.listener_id"
  return { listenerId, nodeIndex := r.nodeIndex.getD 0 }

def ofState (s : State) : Except Failure Binding := do
  let references ← s.references.elems.mapM Reference.ofState
  let repositoryId ← s.repositoryId.require "repository_id"
  return { id := "", repositoryId, enabled := s.enabled.getD true, references }

def Reference.toState (r : Reference) : ReferenceState where
  listenerId := .known r.listenerId
  nodeIndex := .known r.nodeIndex

def refresh (b : Binding) (s : State) : State where
  id := s.id
  sidecarId := s.sidecarId
  repositoryId := .known b.repositoryId
  bindingId := s.bindingId
  enabled := .known b.enabled
  references := .known (b.references.map Reference.toState)

/-- Takes the ID that the control plane gives to a new binding. -/
def created (id : String) : Writer State Unit := do
  let sidecarId ← liftExcept ((← get).sidecarId.require "sidecar_id")
  modify fun s => { s with id := .known (ComposedId.join ComposedId.separator [sidecarId, id]) }
  modify fun s => { s with bindingId := .known id }

def collectionUrl (s : State) (base : String) : Except Failure String := do
  return base ++ listPath (← s.sidecarId.require "sidecar_id")

def objectUrl (s : State) (base : String) : Except Failure String := do
  return (← collectionUrl s base) ++ "/" ++ (← s.bindingId.require "binding_id")

def body (s : State) : Except Failure Json := (ofState s).map envelope

def importState : String → Except Failure State :=
  ComposedId.importPair fun id sidecarId bindingId =>
    ⟨.known id, .known sidecarId, .null, .known bindingId, .null, .null⟩

def resource : Resource State where
  name := "repository_binding"
  schema := schema
  validate := validate
  applyDefaults := applyDefaults
  markComputed s := { s with id := .unknown, bindingId := .unknown }
  replaceTriggers prior proposed :=
    Resource.changed "sidecar_id" prior.sidecarId proposed.sidecarId ++
      Resource.changed "repository_id" prior.repositoryId proposed.repositoryId
  importState := importState
  create :=
    { resource := "repository_binding", kind := .create, method := .post, url := collectionUrl
      body := some body
      response := some fun j => (Json.only? "bindingId" Json.text? j).map created }
  read :=
    { resource := "repository_binding", kind := .read, method := .get, url := objectUrl
      response := some (.of ofEnvelope? refresh) }
  update := some
    { resource := "repository_binding", kind := .update, method := .put, url := objectUrl
      body := some body }
  delete :=
    { resource := "repository_binding", kind := .delete, method := .delete, url := objectUrl }

end ControlPlane.Binding
