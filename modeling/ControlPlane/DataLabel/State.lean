import ControlPlane.DataLabel.Basic
import ControlPlane.Schema
import ControlPlane.Validation
import ControlPlane.Value

/-! The configuration of a data label. -/
namespace ControlPlane.DataLabel

structure RuleState where
  type : Field String
  code : Field String
  status : Field String
  deriving DecidableEq, Repr

structure State where
  id : Field String
  name : Field String
  description : Field String
  tags : StringList
  /-- At most one block. -/
  rule : Field (List RuleState)
  deriving DecidableEq, Repr

open Exchange (toValue)

instance : Exchange RuleState where
  toValue r := .object [("rule_type", toValue r.type), ("rule_code", toValue r.code),
    ("rule_status", toValue r.status)]
  ofValue? v := do
    return {
      type := ← v.attribute? "rule_type"
      code := ← v.attribute? "rule_code"
      status := ← v.attribute? "rule_status" }

instance : Exchange State where
  toValue s := .object [("id", toValue s.id), ("name", toValue s.name),
    ("description", toValue s.description), ("tags", toValue s.tags),
    ("classification_rule", toValue s.rule)]
  ofValue? v := do
    return {
      id := ← v.attribute? "id"
      name := ← v.attribute? "name"
      description := ← v.attribute? "description"
      tags := ← v.attribute? "tags"
      rule := ← v.attribute? "classification_rule" }

def schema : Schema := .of
  (.markdown "Manages a custom [data label](https://cyral.com/docs/policy/datamap).")
  [("id", .id),
    ("name", .required .string "Name of the data label."),
    ("description", .optional .string "Description of the data label."),
    ("tags", .optional .stringList "Tags used to categorize the data label.")]
  [("classification_rule", .optional, .mk
      (.plain "Rule classifying the data matching this label.")
      [("rule_type", .required .string s!"Type of the rule, one of: {Text.commas ruleTypes}."),
        ("rule_code", .optional .string "Code of the classification rule."),
        ("rule_status", .optionalComputed .string
          ("Status of the rule, one of: " ++ Text.commas ruleStatuses ++
            ". Defaults to `ENABLED`."))] [])]

def validateRule (path : Path) (r : RuleState) : List Diagnostic :=
  Validation.oneOf (path.attr "rule_type") r.type ruleTypes ++
    Validation.oneOf (path.attr "rule_status") r.status ruleStatuses

def validate (s : State) : List Diagnostic :=
  s.rule.elems.zipIdx.flatMap fun (r, i) =>
    validateRule ((Path.of "classification_rule").item i) r

def RuleState.applyDefaults (r : RuleState) : RuleState :=
  { r with status := r.status.orDefault "ENABLED" }

def applyDefaults (s : State) : State :=
  { s with rule := s.rule.map (·.map RuleState.applyDefaults) }

end ControlPlane.DataLabel
