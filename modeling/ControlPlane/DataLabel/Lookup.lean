import ControlPlane.DataLabel.State
import ControlPlane.DataSource

/-! Looking up data labels by name and type. -/
namespace ControlPlane.DataLabel

structure Item where
  name : Field String
  type : Field String
  description : Field String
  tags : StringList
  implicit : Field Bool
  ruleType : Field String
  ruleCode : Field String
  ruleStatus : Field String
  deriving DecidableEq, Repr

structure Query where
  name : Field String
  type : Field String
  found : Field (List Item)
  deriving DecidableEq, Repr

open Exchange (toValue)

instance : Exchange Item where
  toValue i := .object [("name", toValue i.name), ("type", toValue i.type),
    ("description", toValue i.description), ("tags", toValue i.tags),
    ("implicit", toValue i.implicit), ("classification_rule_type", toValue i.ruleType),
    ("classification_rule_code", toValue i.ruleCode),
    ("classification_rule_status", toValue i.ruleStatus)]
  ofValue? v := do
    return {
      name := ← v.attribute? "name"
      type := ← v.attribute? "type"
      description := ← v.attribute? "description"
      tags := ← v.attribute? "tags"
      implicit := ← v.attribute? "implicit"
      ruleType := ← v.attribute? "classification_rule_type"
      ruleCode := ← v.attribute? "classification_rule_code"
      ruleStatus := ← v.attribute? "classification_rule_status" }

instance : Exchange Query where
  toValue q := .object [("name", toValue q.name), ("type", toValue q.type),
    ("datalabel_list", toValue q.found)]
  ofValue? v := do
    return {
      name := ← v.attribute? "name"
      type := ← v.attribute? "type"
      found := ← v.attribute? "datalabel_list" }

def labelTypes : List String := ["UNKNOWN", "PREDEFINED", "CUSTOM"]

/-- A label in the list of all labels. -/
structure Entry where
  name : String
  type : String
  description : String
  tags : List String
  implicit : Bool
  rule : Option Rule
  deriving DecidableEq, Repr

namespace Entry

def ofJson? (j : Json) : Option Entry := do
  let given ← j.fields? ["name", "type", "description", "tags", "implicit", "classificationRule"]
  return {
    name := ← Json.field? given "name" Json.text?
    type := ← Json.fieldD? given "type" Json.text? ""
    description := ← Json.fieldD? given "description" Json.text? ""
    tags := ← Json.fieldD? given "tags" Json.texts? []
    implicit := ← Json.fieldD? given "implicit" Json.bool? false
    rule := ← Json.fieldD? given "classificationRule" (Json.option? Rule.ofJson?) none }

def listOfJson? (j : Json) : Option (List Entry) := do
  Json.fieldD? (← j.fields? ["labels"]) "labels" (Json.list? ofJson?) []

def toItem (e : Entry) : Item :=
  let rule := e.rule.getD ⟨"", "", ""⟩
  { name := .known e.name
    type := .known e.type
    description := .ofText e.description
    tags := .knownStrings e.tags
    implicit := .known e.implicit
    ruleType := .ofText rule.type
    ruleCode := .ofText rule.code
    ruleStatus := .ofText rule.status }

end Entry

/-- The type is left to the control plane to filter by. -/
def params (q : Query) : List (String × String) :=
  (q.type.known?.map fun type => ("type", type)).toList

def isWanted (q : Query) (e : Entry) : Bool := q.name.known?.all (e.name = ·)

def lookup : DataSource Query where
  name := "datalabel"
  schema := .of (.plain "Retrieves data labels, optionally filtered by name and type.")
    [("name", .optional .string "Only keep the label with this name."),
      ("type", .optional .string
        s!"Only keep the labels of this type, one of: {Text.commas labelTypes}."),
      ("datalabel_list", .computed (.nested .list
          [("name", .computed .string "Name of the label."),
            ("type", .computed .string "Type of the label."),
            ("description", .computed .string "Description of the label."),
            ("tags", .computed .stringList "Tags of the label."),
            ("implicit", .computed .bool "Whether the label was created implicitly by a policy."),
            ("classification_rule_type", .computed .string "Type of the classification rule."),
            ("classification_rule_code", .computed .string "Code of the classification rule."),
            ("classification_rule_status", .computed .string
              "Status of the classification rule.")])
        "Matching data labels.")]
    []
  validate q := Validation.oneOf (.of "type") q.type labelTypes
  lookUp k q := do
    let entries ← k.getJson (k.client.url "/v1/datalabels") (params q) Entry.listOfJson?
    return { q with found := .known ((entries.filter (isWanted q)).map Entry.toItem) }

end ControlPlane.DataLabel
