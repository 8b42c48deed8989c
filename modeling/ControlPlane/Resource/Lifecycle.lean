import ControlPlane.Resource.Basic
import ControlPlane.Step

/-!
The life of a managed object: it is planned, created or imported, read, updated and destroyed.
Each step gives a new state or reports one diagnostic.
-/
namespace ControlPlane

/-- An object under management, with data that is kept for it and never looked at. -/
structure Managed (S : Type) where
  state : Field S
  kept : Field Unit := .null
  deriving DecidableEq, Repr

namespace Resource
variable {S : Type} (r : Resource S)

/-- The report of an operation that fails. -/
def failed (kind : OperationKind) (failure : Failure) : Diagnostic where
  summary := s!"Unable to {kind.name} {r.typeName}"
  detail := failure.chain

/-- Runs an operation of the resource. No operation runs before the provider is configured. -/
def run (k? : Option Connection) (op : Operation S) (state : S) : Step (Outcome × S) :=
  fun session =>
    match k? with
    | none => .error (r.failed op.kind .notConfigured) session
    | some k =>
      match op.execute k state session with
      | ⟨.ok outcome, state, session⟩ => .ok (outcome, state) session
      | ⟨.error failure, _, session⟩ => .error (r.failed op.kind failure) session

def validateConfig (config : Field S) : List Diagnostic :=
  match config with
  | .known c => r.validate c
  | _ => []

/-- The state of a new object, as far as it can be told. -/
def planCreate (proposed : Field S) : Managed S :=
  { state := proposed.map fun s => r.markComputed (r.applyDefaults s) }

/-- The triggers of a change. A change that cannot be made in place replaces the object. -/
def triggers [DecidableEq S] (prior planned : S) : List Path :=
  match r.replaceTriggers prior planned with
  | [] => if r.update.isNone ∧ prior ≠ planned then [.of "id"] else []
  | triggers => triggers

def planUpdate [DecidableEq S] (prior proposed : Field S) (kept : Field Unit) :
    Managed S × List Path :=
  match prior, proposed with
  | .known prior, .known proposed =>
    let planned := r.applyDefaults proposed
    (⟨.known planned, kept⟩, r.triggers prior planned)
  | _, proposed => (⟨proposed, kept⟩, [])

/-- Nothing is planned for an object that goes. -/
def planDestroy (_ : Resource S) (kept : Field Unit) : Field Unit := kept

def createObject (k? : Option Connection) (planned : Managed S) : Step (Managed S) :=
  match planned.state with
  | .known state => do
    let (_, state) ← r.run k? r.create state
    return { planned with state := .known state }
  | _ => throw { summary := s!"Cannot create {r.typeName} from a null plan" }

/-- Brings the state up to date. An object that is gone leaves the state. -/
def readObject (k? : Option Connection) (object : Managed S) : Step (Managed S) :=
  match object.state with
  | .known state => do
    match ← r.run k? r.read state with
    | (.applied, state) => return { object with state := .known state }
    | (.notFound, _) => return { object with state := .null }
  | _ => return object

def updateObject (k? : Option Connection) (planned : Managed S) : Step (Managed S) :=
  match r.update with
  | none => throw { summary := s!"{r.typeName} cannot be updated in place" }
  | some update =>
    match planned.state with
    | .known state => do
      let (_, state) ← r.run k? update state
      return { planned with state := .known state }
    | _ => throw { summary := s!"Cannot update {r.typeName} from a null plan" }

def destroyObject (k? : Option Connection) (prior : Field S) : Step Unit :=
  match prior with
  | .known state => do
    let _ ← r.run k? r.delete state
  | _ => return

def importObject (id : String) : Except Diagnostic (Managed S) :=
  match r.importState id with
  | .ok state => .ok { state := .known state }
  | .error failure => .error
    { summary := s!"Unable to import {r.typeName}", detail := failure.chain }

end Resource
end ControlPlane
