import ControlPlane.AuthSettings.Basic
import ControlPlane.DataLabel.Basic
import ControlPlane.Proofs.Json.Order
import ControlPlane.Repository.Basic

/-! What is sent for an object is read back as that object, whatever order its members come in. -/
namespace ControlPlane
open Json (Within Unordered)

namespace Repository

theorem Node.ofJson?_toJson (n : Node) : ofJson? n.toJson = some n := by
  have hfields : n.toJson.fields? ["name", "host", "port", "dynamic"] = some _ :=
    Json.fields?_obj (by decide) ((((Within.textMember "name" n.name).append
      (.textMember "host" n.host)).append (.memberIf (n.port ≠ 0) "port" (.number n.port))).append
      (.single "dynamic" (.bool n.dynamic)))
  simp [ofJson?, hfields, Json.fieldD?_eq_elim, List.lookup_append, Json.lookup_cons_eq,
    Json.lookup_memberIf, Json.lookup_textMember, Json.bool?]

theorem Node.ofJson?_unordered : Unordered ofJson? :=
  .of_fields fun _ _ h => by
    simp only [h.fieldD?_eq .text?, h.fieldD?_eq .int64?, h.fieldD?_eq .bool?]

theorem MongoSettings.ofJson?_toJson (m : MongoSettings) : ofJson? m.toJson = some m := by
  have hfields : m.toJson.fields? ["serverType", "replicaSetName", "srvRecordName"] = some _ :=
    Json.fields?_obj (by decide) (((Within.single "serverType" (.str m.serverType)).append
      (.textMember "replicaSetName" m.replicaSetName)).append
      (.textMember "srvRecordName" m.srvRecordName))
  simp [ofJson?, hfields, Json.field?, Json.fieldD?_eq_elim, List.lookup_append,
    Json.lookup_cons_eq, Json.lookup_textMember, Json.text?]

theorem MongoSettings.ofJson?_unordered : Unordered ofJson? :=
  .of_fields fun _ _ h => by
    simp only [h.field?_eq .text?, h.fieldD?_eq .text?]

theorem MongoSettings.toJson_ne_null (m : MongoSettings) : m.toJson ≠ .null :=
  Json.noConfusion

/-- The ID is the object's own and is not sent. -/
theorem ofJson?_toJson (r : Repository) : ofJson? r.toJson = some { r with id := "" } := by
  have hfields : r.toJson.fields?
      ["id", "name", "type", "labels", "repoNodes", "mongoDbSettings"] = some _ :=
    Json.fields?_obj (by decide) (.skip "id" (((((Within.single "name" (.str r.name)).append
      (.single "type" (.str r.type))).append (.single "labels" (.strings r.labels))).append
      (.single "repoNodes" (.arr (r.nodes.map Node.toJson)))).append
      (.optionMember "mongoDbSettings" MongoSettings.toJson r.mongo)))
  simp [ofJson?, hfields, Json.field?, Json.fieldD?_eq_elim, Json.lookup_cons_eq,
    Json.lookup_optionMember, Json.text?, Json.list?_map Node.toJson Node.ofJson?_toJson,
    Json.elim_option MongoSettings.toJson MongoSettings.toJson_ne_null MongoSettings.ofJson?_toJson]

theorem ofJson?_unordered : Unordered ofJson? :=
  .of_fields fun _ _ h => by
    simp only [h.field?_eq .text?, h.fieldD?_eq .text?, h.fieldD?_eq .texts?,
      h.fieldD?_eq Node.ofJson?_unordered.list?,
      h.fieldD?_eq MongoSettings.ofJson?_unordered.option?]

end Repository

namespace DataLabel

theorem Rule.ofJson?_toJson (r : Rule) : ofJson? r.toJson = some r := by
  have hfields : r.toJson.fields? ["ruleType", "ruleCode", "ruleStatus"] = some _ :=
    Json.fields?_obj (by decide) (((Within.single "ruleType" (.str r.type)).append
      (.single "ruleCode" (.str r.code))).append (.single "ruleStatus" (.str r.status)))
  simp [ofJson?, hfields, Json.field?, Json.fieldD?_eq_elim, Json.lookup_cons_eq, Json.text?]

theorem Rule.ofJson?_unordered : Unordered ofJson? :=
  .of_fields fun _ _ h => by
    simp only [h.field?_eq .text?, h.fieldD?_eq .text?]

theorem Rule.toJson_ne_null (r : Rule) : r.toJson ≠ .null :=
  Json.noConfusion

/-- A description that is not given is sent as an empty one. -/
theorem ofJson?_toJson (d : DataLabel) :
    ofJson? d.toJson = some { d with description := some (d.description.getD "") } := by
  have hfields : d.toJson.fields? ["description", "tags", "classificationRule"] = some _ :=
    Json.fields?_obj (by decide) (((Within.single "description"
      (.str (d.description.getD ""))).append (.single "tags" (.strings d.tags))).append
      (.optionMember "classificationRule" Rule.toJson d.rule))
  simp [ofJson?, hfields, Json.fieldD?_eq_elim, Json.lookup_cons_eq, Json.lookup_optionMember,
    Json.option?, Json.text?,
    Json.elim_option Rule.toJson Rule.toJson_ne_null Rule.ofJson?_toJson]

theorem ofJson?_unordered : Unordered ofJson? :=
  .of_fields fun _ _ h => by
    simp only [h.fieldD?_eq Unordered.text?.option?, h.fieldD?_eq .texts?,
      h.fieldD?_eq Rule.ofJson?_unordered.option?]

end DataLabel

namespace AuthSettings

theorem ofJson?_toJson (a : AuthSettings) : ofJson? a.toJson = some a := by
  have hfields : a.toJson.fields? ["allowNativeAuth", "clientTLS", "repoTLS", "authType"] =
      some _ :=
    Json.fields?_obj (by decide) ((((Within.single "allowNativeAuth"
      (.bool a.allowNativeAuth)).append (.single "clientTLS" (.str a.clientTls))).append
      (.single "repoTLS" (.str a.repoTls))).append (.single "authType" (.str a.authType)))
  simp [ofJson?, hfields, Json.field?, Json.fieldD?_eq_elim, Json.lookup_cons_eq, Json.text?,
    Json.bool?]

theorem ofJson?_unordered : Unordered ofJson? :=
  .of_fields fun _ _ h => by
    simp only [h.field?_eq .text?, h.fieldD?_eq .bool?]

end AuthSettings
end ControlPlane
