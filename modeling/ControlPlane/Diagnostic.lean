import ControlPlane.Path

/-! What is reported to the user. Every report is an error. -/
namespace ControlPlane

structure Diagnostic where
  summary : String
  detail : String := ""
  path : Path := .root
  deriving DecidableEq, Repr

end ControlPlane
