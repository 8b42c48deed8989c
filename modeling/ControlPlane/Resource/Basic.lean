import ControlPlane.Diagnostic
import ControlPlane.Operation
import ControlPlane.Schema

/-! Kinds of objects that are managed on a control plane. -/
namespace ControlPlane

structure Resource (S : Type) where
  name : String
  schema : Schema
  /-- Values can still be unknown when a configuration is checked. -/
  validate : S → List Diagnostic := fun _ => []
  /-- Gives null attributes that have a default their default. -/
  applyDefaults : S → S := id
  /-- Marks what only the control plane can tell as unknown. -/
  markComputed : S → S
  /-- The attributes whose change an update cannot bring about. -/
  replaceTriggers : S → S → List Path := fun _ _ => []
  /-- The state that identifies the object of an ID. -/
  importState : String → Except Failure S
  create : Operation S
  read : Operation S
  /-- Without an update, every change makes a new object. -/
  update : Option (Operation S) := none
  delete : Operation S

namespace Resource

/-- The trigger of an attribute that changes. -/
def changed {α : Type} [DecidableEq α] (name : String) (prior proposed : α) : List Path :=
  if prior = proposed then [] else [.of name]

/-- The name of the resource in a configuration. -/
def typeName {S : Type} (r : Resource S) : String := "cyral_" ++ r.name

end Resource
end ControlPlane
