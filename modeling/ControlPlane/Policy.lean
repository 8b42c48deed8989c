import ControlPlane.Resource.Basic
import ControlPlane.Validation
import ControlPlane.Value

/-! Policies of data access, as managed objects. -/
namespace ControlPlane

structure Policy.Meta where
  /-- The ID is read and never sent. -/
  id : String
  name : String
  description : String
  enabled : Bool
  tags : List String
  deriving DecidableEq, Repr

structure Policy where
  about : Policy.Meta
  /-- The data labels that the policy applies to. -/
  data : List String
  deriving DecidableEq, Repr

namespace Policy

namespace Meta

def toJson (m : Meta) : Json :=
  .obj [("name", .str m.name), ("description", .str m.description), ("enabled", .bool m.enabled),
    ("tags", .strings m.tags)]

def ofJson? (j : Json) : Option Meta := do
  let given ← j.fields? ["id", "name", "description", "enabled", "tags"]
  return {
    id := ← Json.fieldD? given "id" Json.text? ""
    name := ← Json.field? given "name" Json.text?
    description := ← Json.fieldD? given "description" Json.text? ""
    enabled := ← Json.fieldD? given "enabled" Json.bool? false
    tags := ← Json.fieldD? given "tags" Json.texts? [] }

end Meta

def toJson (p : Policy) : Json := .obj [("meta", p.about.toJson), ("data", .strings p.data)]

def ofJson? (j : Json) : Option Policy := do
  let given ← j.fields? ["meta", "data"]
  return {
    about := ← Json.field? given "meta" Meta.ofJson?
    data := ← Json.fieldD? given "data" Json.texts? [] }

structure State where
  id : Field String
  name : Field String
  description : Field String
  enabled : Field Bool
  tags : StringList
  data : StringList
  deriving DecidableEq, Repr

open Exchange (toValue)

instance : Exchange State where
  toValue s := .object [("id", toValue s.id), ("name", toValue s.name),
    ("description", toValue s.description), ("enabled", toValue s.enabled),
    ("tags", toValue s.tags), ("data", toValue s.data)]
  ofValue? v := do
    return {
      id := ← v.attribute? "id"
      name := ← v.attribute? "name"
      description := ← v.attribute? "description"
      enabled := ← v.attribute? "enabled"
      tags := ← v.attribute? "tags"
      data := ← v.attribute? "data" }

def schema : Schema := .of (.plain "Manages a data access policy.")
  [("id", .id),
    ("name", .required .string "Policy name."),
    ("description", .optional .string "Description of the policy."),
    ("enabled", .optionalComputed .bool "Whether the policy is enforced. Defaults to `true`."),
    ("tags", .optional .stringList "Tags used to categorize the policy."),
    ("data", .optional .stringList "Data labels the policy applies to.")]
  []

/-- A policy is enforced if nothing else is said. -/
def applyDefaults (s : State) : State := { s with enabled := s.enabled.orDefault true }

def ofState (s : State) : Except Failure Policy := do
  let name ← s.name.require "name"
  return {
    about :=
      { id := "", name, description := s.description.text, enabled := s.enabled.getD true
        tags := s.tags.strings }
    data := s.data.strings }

def refresh (p : Policy) (s : State) : State where
  id := s.id
  name := .known p.about.name
  description := .ofText p.about.description
  enabled := .known p.about.enabled
  tags := .ofStrings p.about.tags s.tags
  data := .ofStrings p.data s.data

def collectionUrl (_ : State) (base : String) : Except Failure String :=
  .ok (base ++ "/v1/policies")

def objectUrl (s : State) (base : String) : Except Failure String := do
  return base ++ "/v1/policies/" ++ (← s.id.require "id")

def body (s : State) : Except Failure Json := (ofState s).map toJson

def imported (id : String) : State := ⟨.known id, .null, .null, .null, .null, .null⟩

def resource : Resource State where
  name := "policy"
  schema := schema
  applyDefaults := applyDefaults
  markComputed s := { s with id := .unknown }
  importState id := .ok (imported id)
  create :=
    { resource := "policy", kind := .create, method := .post, url := collectionUrl
      body := some body
      response := some (.of (Json.only? "ID" Json.text?) fun id s => { s with id := .known id }) }
  read :=
    { resource := "policy", kind := .read, method := .get, url := objectUrl
      response := some (.of ofJson? refresh) }
  update := some
    { resource := "policy", kind := .update, method := .put, url := objectUrl
      body := some body }
  delete := { resource := "policy", kind := .delete, method := .delete, url := objectUrl }

end Policy
end ControlPlane
