import ControlPlane.Binding.Basic
import ControlPlane.Listener.Basic
import ControlPlane.Listing

/-! The bindings of a sidecar with the listeners that they refer to. -/
namespace ControlPlane

structure ComposedBinding where
  binding : Binding
  listeners : List Listener
  deriving DecidableEq, Repr

namespace Binding

/-- The bindings of a sidecar, in pages. -/
def listing (k : Connection) (sidecarId : String) : Listing Binding where
  url := k.client.url (listPath sidecarId)
  filters := []
  pageSize := Listing.defaultPageSize
  page j := do Json.fieldD? (← j.fields? ["bindings"]) "bindings" (Json.list? ofJson?) []
  cursor b := b.id

/-- The last of the listeners that are listed with one ID counts. -/
def Reference.find? (listeners : List Listener) (r : Reference) : Option Listener :=
  listeners.reverse.find? (·.id = r.listenerId)

/-- References to listeners that do not exist are dropped. -/
def compose (listeners : List Listener) (b : Binding) : ComposedBinding where
  binding := b
  listeners := b.references.filterMap (Reference.find? listeners)

/-- Lists the bindings of a sidecar, and its listeners beside them. The two lists may be fetched at
the same time. Of the orders that their requests can arrive in, this is the one with the bindings
first. -/
def composed (k : Connection) (sidecarId : String) : Call (List ComposedBinding) := do
  let bindings ← (listing k sidecarId).items k
  let listeners ← k.getJson (k.client.url (Listener.listPath sidecarId)) [] Listener.listOfJson?
  return bindings.map (compose listeners)

end Binding
end ControlPlane
