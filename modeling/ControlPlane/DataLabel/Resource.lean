import ControlPlane.DataLabel.State
import ControlPlane.Resource.Basic

/-! Data labels as managed objects. To create a label is to put it under its name. -/
namespace ControlPlane.DataLabel

def Rule.ofState (r : RuleState) : Except Failure Rule := do
  let type ← r.type.require "classification_rule.rule_type"
  return { type, code := r.code.text, status := r.status.text }

def ofState (s : State) : Except Failure DataLabel := do
  let rule ← s.rule.first.mapM Rule.ofState
  return { description := some s.description.text, tags := s.tags.strings, rule }

def Rule.toState (r : Rule) : RuleState where
  type := .known r.type
  code := .ofText r.code
  status := .known r.status

def refresh (d : DataLabel) (s : State) : State where
  id := s.name
  name := s.name
  description := .ofText (d.description.getD "")
  tags := .ofStrings d.tags s.tags
  rule := .single (d.rule.map Rule.toState)

def objectUrl (s : State) (base : String) : Except Failure String := do
  return base ++ "/v1/datalabels/" ++ (← s.name.require "name")

def body (s : State) : Except Failure Json := (ofState s).map toJson

def imported (id : String) : State := ⟨.known id, .known id, .null, .null, .null⟩

def resource : Resource State where
  name := "datalabel"
  schema := schema
  validate := validate
  applyDefaults := applyDefaults
  markComputed s := { s with id := s.name }
  replaceTriggers prior proposed := Resource.changed "name" prior.name proposed.name
  importState id := .ok (imported id)
  create :=
    { resource := "datalabel", kind := .create, method := .put, url := objectUrl
      body := some body }
  read :=
    { resource := "datalabel", kind := .read, method := .get, url := objectUrl
      response := some (.of ofJson? refresh) }
  update := some
    { resource := "datalabel", kind := .update, method := .put, url := objectUrl
      body := some body }
  delete := { resource := "datalabel", kind := .delete, method := .delete, url := objectUrl }

end ControlPlane.DataLabel
