import ControlPlane.Binding.Basic
import ControlPlane.Schema
import ControlPlane.Validation
import ControlPlane.Value

/-! The configuration of a binding. -/
namespace ControlPlane.Binding

structure ReferenceState where
  listenerId : Field String
  nodeIndex : Field Int64
  deriving DecidableEq, Repr

structure State where
  id : Field String
  sidecarId : Field String
  repositoryId : Field String
  bindingId : Field String
  enabled : Field Bool
  references : Field (List ReferenceState)
  deriving DecidableEq, Repr

open Exchange (toValue)

instance : Exchange ReferenceState where
  toValue r := .object [("listener_id", toValue r.listenerId),
    ("node_index", toValue r.nodeIndex)]
  ofValue? v := do
    return { listenerId := ← v.attribute? "listener_id", nodeIndex := ← v.attribute? "node_index" }

instance : Exchange State where
  toValue s := .object [("id", toValue s.id), ("sidecar_id", toValue s.sidecarId),
    ("repository_id", toValue s.repositoryId), ("binding_id", toValue s.bindingId),
    ("enabled", toValue s.enabled), ("listener_binding", toValue s.references)]
  ofValue? v := do
    return {
      id := ← v.attribute? "id"
      sidecarId := ← v.attribute? "sidecar_id"
      repositoryId := ← v.attribute? "repository_id"
      bindingId := ← v.attribute? "binding_id"
      enabled := ← v.attribute? "enabled"
      references := ← v.attribute? "listener_binding" }

def schema : Schema := .of (.plain "Binds a repository to a sidecar.")
  [("id", .id),
    ("sidecar_id", .required .string "ID of the sidecar the repository is bound to."),
    ("repository_id", .required .string "ID of the bound repository."),
    ("binding_id", .computed .string "ID of the binding."),
    ("enabled", .optionalComputed .bool "Whether the binding is enabled. Defaults to `true`.")]
  [("listener_binding", .list, .mk (.plain "Listener serving one node of the repository.")
      [("listener_id", .required .string "ID of the listener."),
        ("node_index", .optionalComputed .number
          "Index of the repository node served by the listener. Defaults to `0`.")] [])]

def validateReference (path : Path) (r : ReferenceState) : List Diagnostic :=
  match r.nodeIndex with
  | .known index =>
    if index < 0 then
      [{ summary := "Node indexes cannot be negative", path := path.attr "node_index" }]
    else []
  | _ => []

def validate (s : State) : List Diagnostic :=
  Validation.notEmpty (.of "listener_binding") s.references ++
    s.references.elems.zipIdx.flatMap fun (r, i) =>
      validateReference ((Path.of "listener_binding").item i) r

def ReferenceState.applyDefaults (r : ReferenceState) : ReferenceState :=
  { r with nodeIndex := r.nodeIndex.orDefault 0 }

/-- A binding is enabled, and serves the first node, if nothing else is said. -/
def applyDefaults (s : State) : State :=
  { s with
    enabled := s.enabled.orDefault true
    references := s.references.map (·.map ReferenceState.applyDefaults) }

end ControlPlane.Binding
