import ControlPlane.Binding.Composed
import ControlPlane.DataSource
import ControlPlane.Value

/-! Looking up the ports that a sidecar is bound to. -/
namespace ControlPlane.Binding

structure PortsQuery where
  id : Field String
  sidecarId : Field String
  ports : Field (List (Field Int64))
  deriving DecidableEq, Repr

open Exchange (toValue)

instance : Exchange PortsQuery where
  toValue q := .object [("id", toValue q.id), ("sidecar_id", toValue q.sidecarId),
    ("bound_ports", toValue q.ports)]
  ofValue? v := do
    return {
      id := ← v.attribute? "id"
      sidecarId := ← v.attribute? "sidecar_id"
      ports := ← v.attribute? "bound_ports" }

/-- Puts a number into an ascending list, unless it is there. -/
def insertPort (port : Int64) : List Int64 → List Int64
  | [] => [port]
  | p :: ps =>
    if port < p then port :: p :: ps
    else if port = p then p :: ps
    else p :: insertPort port ps

/-- The ports of the listeners that enabled bindings refer to, each one once and in order. -/
def boundPorts (composed : List ComposedBinding) : List Int64 :=
  ((composed.filter (·.binding.enabled)).flatMap (·.listeners.map (·.address.port))).foldr
    insertPort []

def portsLookup : DataSource PortsQuery where
  name := "sidecar_bound_ports"
  schema := .of
    (.plain "Retrieves the ports a sidecar listens on for its enabled repository bindings.")
    [("id", .computed .string "ID of the sidecar."),
      ("sidecar_id", .required .string "ID of the sidecar."),
      ("bound_ports", .computed (.list .number) "Sorted list of the bound ports.")]
    []
  lookUp k q := do
    let sidecarId ← liftExcept (q.sidecarId.require "sidecar_id")
    let bindings ← composed k sidecarId
    return { q with
      id := .known sidecarId
      ports := .known ((boundPorts bindings).map .known) }

end ControlPlane.Binding
