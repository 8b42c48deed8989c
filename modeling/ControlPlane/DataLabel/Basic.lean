import ControlPlane.Json.Record

/-! Data labels as the control plane holds them. A label is known by its name. -/
namespace ControlPlane

/-- A rule that tells which data a label is for. -/
structure DataLabel.Rule where
  type : String
  code : String
  status : String
  deriving DecidableEq, Repr

structure DataLabel where
  description : Option String
  tags : List String
  rule : Option DataLabel.Rule
  deriving DecidableEq, Repr

namespace DataLabel

def ruleTypes : List String := ["UNKNOWN", "REGO"]

def ruleStatuses : List String := ["ENABLED", "DISABLED"]

namespace Rule

def toJson (r : Rule) : Json :=
  .obj [("ruleType", .str r.type), ("ruleCode", .str r.code), ("ruleStatus", .str r.status)]

def ofJson? (j : Json) : Option Rule := do
  let given ← j.fields? ["ruleType", "ruleCode", "ruleStatus"]
  return {
    type := ← Json.field? given "ruleType" Json.text?
    code := ← Json.fieldD? given "ruleCode" Json.text? ""
    status := ← Json.fieldD? given "ruleStatus" Json.text? "" }

end Rule

/-- A description is always sent, so that an old one does not stay. -/
def toJson (d : DataLabel) : Json :=
  .obj ([("description", .str (d.description.getD "")), ("tags", .strings d.tags)] ++
    Json.optionMember "classificationRule" Rule.toJson d.rule)

def ofJson? (j : Json) : Option DataLabel := do
  let given ← j.fields? ["description", "tags", "classificationRule"]
  return {
    description := ← Json.fieldD? given "description" (Json.option? Json.text?) none
    tags := ← Json.fieldD? given "tags" Json.texts? []
    rule := ← Json.fieldD? given "classificationRule" (Json.option? Rule.ofJson?) none }

end DataLabel
end ControlPlane
