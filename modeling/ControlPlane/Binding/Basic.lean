import ControlPlane.Json.Record

/-! Bindings of a repository to the listeners of a sidecar, as the control plane holds them. -/
namespace ControlPlane

/-- A listener that serves one node of the repository. -/
structure Binding.Reference where
  listenerId : String
  nodeIndex : Int64
  deriving DecidableEq, Repr

structure Binding where
  /-- The ID is read and never sent. -/
  id : String
  repositoryId : String
  enabled : Bool
  references : List Binding.Reference
  deriving DecidableEq, Repr

namespace Binding

namespace Reference

def toJson (r : Reference) : Json :=
  .obj [("listenerId", .str r.listenerId), ("nodeIndex", .number r.nodeIndex)]

def ofJson? (j : Json) : Option Reference := do
  let given ← j.fields? ["listenerId", "nodeIndex"]
  return {
    listenerId := ← Json.field? given "listenerId" Json.text?
    nodeIndex := ← Json.fieldD? given "nodeIndex" Json.int64? 0 }

end Reference

def toJson (b : Binding) : Json :=
  .obj [("repoId", .str b.repositoryId), ("enabled", .bool b.enabled),
    ("listenerBindings", .arr (b.references.map Reference.toJson))]

def ofJson? (j : Json) : Option Binding := do
  let given ← j.fields? ["id", "repoId", "enabled", "listenerBindings"]
  return {
    id := ← Json.fieldD? given "id" Json.text? ""
    repositoryId := ← Json.field? given "repoId" Json.text?
    enabled := ← Json.fieldD? given "enabled" Json.bool? false
    references := ← Json.fieldD? given "listenerBindings" (Json.list? Reference.ofJson?) [] }

/-- Bindings travel in an envelope, both ways. -/
def envelope (b : Binding) : Json := .obj [("binding", b.toJson)]

def ofEnvelope? : Json → Option Binding := Json.only? "binding" ofJson?

def listPath (sidecarId : String) : String := "/v1/sidecars/" ++ sidecarId ++ "/bindings"

end Binding
end ControlPlane
