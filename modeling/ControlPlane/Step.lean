import ControlPlane.Client
import ControlPlane.Diagnostic

/-! What is done for a user at once, and is reported to them when it fails. -/
namespace ControlPlane

/-- A step that may call the control plane. It fails with one diagnostic. -/
abbrev Step (α : Type) := EStateM Diagnostic Session α

end ControlPlane
