import ControlPlane.Schema
import ControlPlane.Step

/-! Look-ups on a control plane. They fill in what a configuration asks for and change nothing. -/
namespace ControlPlane

structure DataSource (S : Type) where
  name : String
  schema : Schema
  validate : S → List Diagnostic := fun _ => []
  lookUp : Connection → S → Call S

namespace DataSource
variable {S : Type} (d : DataSource S)

def typeName : String := "cyral_" ++ d.name

def validateConfig (config : Field S) : List Diagnostic :=
  match config with
  | .known c => d.validate c
  | _ => []

def failed (failure : Failure) : Diagnostic where
  summary := s!"Unable to read {d.typeName}"
  detail := failure.chain

/-- Looks up what a known configuration asks for. Nothing is looked up for another. -/
def readConfig (k? : Option Connection) (config : Field S) : Step (Field S) := fun session =>
  match config, k? with
  | .known c, some k =>
    match d.lookUp k c session with
    | .ok state session => .ok (.known state) session
    | .error failure session => .error (d.failed failure) session
  | .known _, none => .error (d.failed .notConfigured) session
  | config, _ => .ok config session

end DataSource
end ControlPlane
