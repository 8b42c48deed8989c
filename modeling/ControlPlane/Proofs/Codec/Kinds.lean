import ControlPlane.Binding.Basic
import ControlPlane.Integration.Datadog
import ControlPlane.Integration.Logging.Basic
import ControlPlane.Integration.Webhook
import ControlPlane.Listener.Basic
import ControlPlane.Policy
import ControlPlane.Proofs.Json.Order
import ControlPlane.ServiceAccount
import ControlPlane.Sidecar.Basic
import ControlPlane.UserAccount.Basic

/-! Round trips of the objects that refer to repositories and sidecars, and of the others. -/
namespace ControlPlane
open Json (Within Unordered)

namespace Sidecar

theorem ofJson?_toJson (s : Sidecar) : ofJson? s.toJson = some { s with id := "" } := by
  have hfields : s.toJson.fields?
      ["id", "name", "labels", "userEndpoint", "activityLogIntegrationID", "properties"] = some _ :=
    Json.fields?_obj (by decide) (.skip "id" (((((Within.single "name" (.str s.name)).append
      (.single "labels" (.strings s.labels))).append
      (.textMember "userEndpoint" s.userEndpoint)).append
      (.textMember "activityLogIntegrationID" s.activityLogIntegrationId)).append
      (.single "properties" (.obj [("deploymentMethod", .str s.deploymentMethod)]))))
  simp [ofJson?, hfields, Json.field?, Json.fieldD?_eq_elim, List.lookup_append,
    Json.lookup_cons_eq, Json.lookup_textMember, Json.only?_obj, Json.text?]

theorem ofJson?_unordered : Unordered ofJson? :=
  .of_fields fun _ _ h => by
    simp only [h.field?_eq .text?, h.fieldD?_eq .text?, h.fieldD?_eq .texts?,
      h.fieldD?_eq (Unordered.text?.only? "deploymentMethod")]

end Sidecar

namespace Listener

theorem Address.ofJson?_toJson (a : Address) : ofJson? a.toJson = some a := by
  have hfields : a.toJson.fields? ["host", "port"] = some _ :=
    Json.fields?_obj (by decide) ((Within.textMember "host" a.host).append
      (.single "port" (.number a.port)))
  simp [ofJson?, hfields, Json.field?, Json.fieldD?_eq_elim, List.lookup_append,
    Json.lookup_cons_eq, Json.lookup_textMember]

theorem Address.ofJson?_unordered : Unordered ofJson? :=
  .of_fields fun _ _ h => by
    simp only [h.fieldD?_eq .text?, h.field?_eq .int64?]

theorem ofJson?_toJson (l : Listener) : ofJson? l.toJson = some { l with id := "" } := by
  have hfields : l.toJson.fields? ["id", "repoTypes", "address"] = some _ :=
    Json.fields?_obj (by decide) (.skip "id" ((Within.single "repoTypes"
      (.strings l.repoTypes)).append (.single "address" l.address.toJson)))
  simp [ofJson?, hfields, Json.field?, Json.fieldD?_eq_elim, Json.lookup_cons_eq,
    Address.ofJson?_toJson]

theorem ofJson?_unordered : Unordered ofJson? :=
  .of_fields fun _ _ h => by
    simp only [h.fieldD?_eq .text?, h.fieldD?_eq .texts?, h.field?_eq Address.ofJson?_unordered]

end Listener

namespace Binding

theorem Reference.ofJson?_toJson (r : Reference) : ofJson? r.toJson = some r := by
  have hfields : r.toJson.fields? ["listenerId", "nodeIndex"] = some _ :=
    Json.fields?_obj (by decide) ((Within.single "listenerId" (.str r.listenerId)).append
      (.single "nodeIndex" (.number r.nodeIndex)))
  simp [ofJson?, hfields, Json.field?, Json.fieldD?_eq_elim, Json.lookup_cons_eq, Json.text?]

theorem Reference.ofJson?_unordered : Unordered ofJson? :=
  .of_fields fun _ _ h => by
    simp only [h.field?_eq .text?, h.fieldD?_eq .int64?]

theorem ofJson?_toJson (b : Binding) : ofJson? b.toJson = some { b with id := "" } := by
  have hfields : b.toJson.fields? ["id", "repoId", "enabled", "listenerBindings"] = some _ :=
    Json.fields?_obj (by decide) (.skip "id" (((Within.single "repoId" (.str b.repositoryId)).append
      (.single "enabled" (.bool b.enabled))).append
      (.single "listenerBindings" (.arr (b.references.map Reference.toJson)))))
  simp [ofJson?, hfields, Json.field?, Json.fieldD?_eq_elim, Json.lookup_cons_eq, Json.text?,
    Json.bool?, Json.list?_map Reference.toJson Reference.ofJson?_toJson]

theorem ofJson?_unordered : Unordered ofJson? :=
  .of_fields fun _ _ h => by
    simp only [h.fieldD?_eq .text?, h.field?_eq .text?, h.fieldD?_eq .bool?,
      h.fieldD?_eq Reference.ofJson?_unordered.list?]

theorem ofEnvelope?_envelope (b : Binding) : ofEnvelope? b.envelope = some { b with id := "" } := by
  rw [ofEnvelope?, envelope, Json.only?_obj, ofJson?_toJson]

theorem ofEnvelope?_unordered : Unordered ofEnvelope? := ofJson?_unordered.only? "binding"

end Binding

namespace UserAccount

theorem EnvironmentVariable.ofJson?_toJson (e : EnvironmentVariable) :
    ofJson? e.toJson = some e := by
  simp [ofJson?, toJson, Json.only?_obj, Json.text?]

theorem EnvironmentVariable.ofJson?_unordered : Unordered ofJson? := by
  intro j j' h
  simp only [ofJson?, Unordered.text?.only? "variableName" j j' h]

theorem EnvironmentVariable.toJson_ne_null (e : EnvironmentVariable) : e.toJson ≠ .null :=
  Json.noConfusion

theorem KubernetesSecret.ofJson?_toJson (k : KubernetesSecret) : ofJson? k.toJson = some k := by
  have hfields : k.toJson.fields? ["secretName", "secretKey"] = some _ :=
    Json.fields?_obj (by decide) ((Within.single "secretName" (.str k.secretName)).append
      (.single "secretKey" (.str k.secretKey)))
  simp [ofJson?, hfields, Json.field?, Json.lookup_cons_eq, Json.text?]

theorem KubernetesSecret.ofJson?_unordered : Unordered ofJson? :=
  .of_fields fun _ _ h => by
    simp only [h.field?_eq .text?]

theorem KubernetesSecret.toJson_ne_null (k : KubernetesSecret) : k.toJson ≠ .null :=
  Json.noConfusion

theorem AwsSecret.ofJson?_toJson (a : AwsSecret) : ofJson? a.toJson = some a := by
  simp [ofJson?, toJson, Json.only?_obj, Json.text?]

theorem AwsSecret.ofJson?_unordered : Unordered ofJson? := by
  intro j j' h
  simp only [ofJson?, Unordered.text?.only? "secretArn" j j' h]

theorem AwsSecret.toJson_ne_null (a : AwsSecret) : a.toJson ≠ .null :=
  Json.noConfusion

theorem Vault.ofJson?_toJson (v : Vault) : ofJson? v.toJson = some v := by
  have hfields : v.toJson.fields? ["path", "isDynamicUserAccount"] = some _ :=
    Json.fields?_obj (by decide) ((Within.single "path" (.str v.path)).append
      (.single "isDynamicUserAccount" (.bool v.isDynamic)))
  simp [ofJson?, hfields, Json.field?, Json.fieldD?_eq_elim, Json.lookup_cons_eq, Json.text?,
    Json.bool?]

theorem Vault.ofJson?_unordered : Unordered ofJson? :=
  .of_fields fun _ _ h => by
    simp only [h.field?_eq .text?, h.fieldD?_eq .bool?]

theorem Vault.toJson_ne_null (v : Vault) : v.toJson ≠ .null :=
  Json.noConfusion

/-- A place that is not used is left out, so that each can be told apart from the others. -/
theorem AuthScheme.ofJson?_toJson (a : AuthScheme) : ofJson? a.toJson = some a := by
  have hfields : a.toJson.fields?
      ["environmentVariable", "kubernetesSecret", "awsSecretsManager", "hashicorpVault"] =
        some _ :=
    Json.fields?_obj (by decide) ((((Within.optionMember "environmentVariable"
      EnvironmentVariable.toJson a.environmentVariable).append
      (.optionMember "kubernetesSecret" KubernetesSecret.toJson a.kubernetesSecret)).append
      (.optionMember "awsSecretsManager" AwsSecret.toJson a.awsSecret)).append
      (.optionMember "hashicorpVault" Vault.toJson a.vault))
  simp [ofJson?, hfields, Json.fieldD?_eq_elim, List.lookup_append, Json.lookup_optionMember,
    Json.elim_option EnvironmentVariable.toJson EnvironmentVariable.toJson_ne_null
      EnvironmentVariable.ofJson?_toJson,
    Json.elim_option KubernetesSecret.toJson KubernetesSecret.toJson_ne_null
      KubernetesSecret.ofJson?_toJson,
    Json.elim_option AwsSecret.toJson AwsSecret.toJson_ne_null AwsSecret.ofJson?_toJson,
    Json.elim_option Vault.toJson Vault.toJson_ne_null Vault.ofJson?_toJson]

theorem AuthScheme.ofJson?_unordered : Unordered ofJson? :=
  .of_fields fun _ _ h => by
    simp only [h.fieldD?_eq EnvironmentVariable.ofJson?_unordered.option?,
      h.fieldD?_eq KubernetesSecret.ofJson?_unordered.option?,
      h.fieldD?_eq AwsSecret.ofJson?_unordered.option?,
      h.fieldD?_eq Vault.ofJson?_unordered.option?]

theorem ofJson?_toJson (u : UserAccount) : ofJson? u.toJson = some u := by
  have hfields : u.toJson.fields? ["name", "authDatabaseName", "authScheme"] = some _ :=
    Json.fields?_obj (by decide) (((Within.single "name" (.str u.name)).append
      (.textMember "authDatabaseName" u.authDatabaseName)).append
      (.single "authScheme" u.authScheme.toJson))
  simp [ofJson?, hfields, Json.field?, Json.fieldD?_eq_elim, List.lookup_append,
    Json.lookup_cons_eq, Json.lookup_textMember, Json.text?, AuthScheme.ofJson?_toJson]

theorem ofJson?_unordered : Unordered ofJson? :=
  .of_fields fun _ _ h => by
    simp only [h.field?_eq .text?, h.fieldD?_eq .text?,
      h.field?_eq AuthScheme.ofJson?_unordered]

end UserAccount

namespace Policy

theorem Meta.ofJson?_toJson (m : Meta) : ofJson? m.toJson = some { m with id := "" } := by
  have hfields : m.toJson.fields? ["id", "name", "description", "enabled", "tags"] = some _ :=
    Json.fields?_obj (by decide) (.skip "id" ((((Within.single "name" (.str m.name)).append
      (.single "description" (.str m.description))).append
      (.single "enabled" (.bool m.enabled))).append (.single "tags" (.strings m.tags))))
  simp [ofJson?, hfields, Json.field?, Json.fieldD?_eq_elim, Json.lookup_cons_eq, Json.text?,
    Json.bool?]

theorem Meta.ofJson?_unordered : Unordered ofJson? :=
  .of_fields fun _ _ h => by
    simp only [h.fieldD?_eq .text?, h.field?_eq .text?, h.fieldD?_eq .bool?, h.fieldD?_eq .texts?]

theorem ofJson?_toJson (p : Policy) :
    ofJson? p.toJson = some { p with about := { p.about with id := "" } } := by
  have hfields : p.toJson.fields? ["meta", "data"] = some _ :=
    Json.fields?_obj (by decide) ((Within.single "meta" p.about.toJson).append
      (.single "data" (.strings p.data)))
  simp [ofJson?, hfields, Json.field?, Json.fieldD?_eq_elim, Json.lookup_cons_eq,
    Meta.ofJson?_toJson]

theorem ofJson?_unordered : Unordered ofJson? :=
  .of_fields fun _ _ h => by
    simp only [h.field?_eq Meta.ofJson?_unordered, h.fieldD?_eq .texts?]

end Policy

namespace Logging

theorem CloudWatch.ofJson?_toJson (c : CloudWatch) : ofJson? c.toJson = some c := by
  have hfields : c.toJson.fields? ["region", "group", "stream"] = some _ :=
    Json.fields?_obj (by decide) (((Within.single "region" (.str c.region)).append
      (.single "group" (.str c.group))).append (.textMember "stream" c.stream))
  simp [ofJson?, hfields, Json.field?, Json.fieldD?_eq_elim, Json.lookup_cons_eq,
    Json.lookup_textMember, Json.text?]

theorem CloudWatch.ofJson?_unordered : Unordered ofJson? :=
  .of_fields fun _ _ h => by
    simp only [h.field?_eq .text?, h.fieldD?_eq .text?]

theorem CloudWatch.toJson_ne_null (c : CloudWatch) : c.toJson ≠ .null :=
  Json.noConfusion

theorem DatadogLogs.ofJson?_toJson (d : DatadogLogs) : ofJson? d.toJson = some d := by
  have hfields : d.toJson.fields? ["apiKey"] = some _ :=
    Json.fields?_obj (by decide) (Within.single "apiKey" (.str d.apiKey))
  simp [ofJson?, hfields, Json.fieldD?_eq_elim, Json.text?]

theorem DatadogLogs.ofJson?_unordered : Unordered ofJson? :=
  .of_fields fun _ _ h => by
    simp only [h.fieldD?_eq .text?]

theorem DatadogLogs.toJson_ne_null (d : DatadogLogs) : d.toJson ≠ .null :=
  Json.noConfusion

theorem Splunk.ofJson?_toJson (s : Splunk) : ofJson? s.toJson = some s := by
  have hfields : s.toJson.fields? ["hostname", "hecPort", "accessToken", "index", "useTls"] =
      some _ :=
    Json.fields?_obj (by decide) (((((Within.single "hostname" (.str s.hostname)).append
      (.single "hecPort" (.str s.hecPort))).append
      (.single "accessToken" (.str s.accessToken))).append
      (.textMember "index" s.index)).append (.single "useTls" (.bool s.useTls)))
  simp [ofJson?, hfields, Json.field?, Json.fieldD?_eq_elim, List.lookup_append,
    Json.lookup_cons_eq, Json.lookup_textMember, Json.text?, Json.bool?]

theorem Splunk.ofJson?_unordered : Unordered ofJson? :=
  .of_fields fun _ _ h => by
    simp only [h.field?_eq .text?, h.fieldD?_eq .text?, h.fieldD?_eq .bool?]

theorem Splunk.toJson_ne_null (s : Splunk) : s.toJson ≠ .null :=
  Json.noConfusion

theorem ofJson?_toJson (l : Logging) : ofJson? l.toJson = some { l with id := "" } := by
  have hfields : l.toJson.fields?
      ["id", "name", "receiveAuditLogs", "cloudWatch", "datadog", "splunk"] = some _ :=
    Json.fields?_obj (by decide) (.skip "id" (((((Within.single "name" (.str l.name)).append
      (.single "receiveAuditLogs" (.bool l.receiveAuditLogs))).append
      (.optionMember "cloudWatch" CloudWatch.toJson l.cloudWatch)).append
      (.optionMember "datadog" DatadogLogs.toJson l.datadog)).append
      (.optionMember "splunk" Splunk.toJson l.splunk)))
  simp [ofJson?, hfields, Json.field?, Json.fieldD?_eq_elim, List.lookup_append,
    Json.lookup_cons_eq, Json.lookup_optionMember, Json.text?, Json.bool?,
    Json.elim_option CloudWatch.toJson CloudWatch.toJson_ne_null CloudWatch.ofJson?_toJson,
    Json.elim_option DatadogLogs.toJson DatadogLogs.toJson_ne_null DatadogLogs.ofJson?_toJson,
    Json.elim_option Splunk.toJson Splunk.toJson_ne_null Splunk.ofJson?_toJson]

theorem ofJson?_unordered : Unordered ofJson? :=
  .of_fields fun _ _ h => by
    simp only [h.fieldD?_eq .text?, h.field?_eq .text?, h.fieldD?_eq .bool?,
      h.fieldD?_eq CloudWatch.ofJson?_unordered.option?,
      h.fieldD?_eq DatadogLogs.ofJson?_unordered.option?,
      h.fieldD?_eq Splunk.ofJson?_unordered.option?]

end Logging

/-- A secret that is not given is sent as null, and null is read as no secret. -/
theorem Json.option?_text (secret : Option String) :
    Json.option? Json.text? ((secret.map Json.str).getD .null) = some secret := by
  cases secret <;> rfl

namespace Webhook

theorem ofJson?_toJson (w : Webhook) : ofJson? w.toJson = some w := by
  have hfields : w.toJson.fields? ["name", "url"] = some _ :=
    Json.fields?_obj (by decide) ((Within.single "name" (.str w.name)).append
      (.single "url" ((w.url.map Json.str).getD .null)))
  simp [ofJson?, hfields, Json.field?, Json.fieldD?_eq_elim, Json.lookup_cons_eq, Json.text?,
    Json.option?_text]

theorem ofJson?_unordered : Unordered ofJson? :=
  .of_fields fun _ _ h => by
    simp only [h.field?_eq .text?, h.fieldD?_eq Unordered.text?.option?]

end Webhook

namespace Datadog

theorem ofJson?_toJson (d : Datadog) : ofJson? d.toJson = some d := by
  have hfields : d.toJson.fields? ["name", "apiKey"] = some _ :=
    Json.fields?_obj (by decide) ((Within.single "name" (.str d.name)).append
      (.single "apiKey" ((d.apiKey.map Json.str).getD .null)))
  simp [ofJson?, hfields, Json.field?, Json.fieldD?_eq_elim, Json.lookup_cons_eq, Json.text?,
    Json.option?_text]

theorem ofJson?_unordered : Unordered ofJson? :=
  .of_fields fun _ _ h => by
    simp only [h.field?_eq .text?, h.fieldD?_eq Unordered.text?.option?]

end Datadog

namespace ServiceAccount

theorem ofJson?_toJson (a : ServiceAccount) : ofJson? a.toJson = some a := by
  have hfields : a.toJson.fields? ["displayName", "permissionIds"] = some _ :=
    Json.fields?_obj (by decide) ((Within.single "displayName" (.str a.displayName)).append
      (.single "permissionIds" (.strings a.permissionIds)))
  simp [ofJson?, hfields, Json.field?, Json.fieldD?_eq_elim, Json.lookup_cons_eq, Json.text?]

theorem ofJson?_unordered : Unordered ofJson? :=
  .of_fields fun _ _ h => by
    simp only [h.field?_eq .text?, h.fieldD?_eq .texts?]

end ServiceAccount
end ControlPlane
