import ControlPlane.Http.Script
import ControlPlane.Proofs.Secrets.Kinds

/-! Secrets make no difference to what is told of objects, and none to where requests go. -/
namespace ControlPlane.ResourceKind

/--
Objects that differ in secrets only pass the same checks. What is done with them succeeds alike or
tells the same diagnostic, sends requests that differ in secrets only, and leaves objects that
differ in secrets only.
-/
theorem secrets_unseen (kind : ResourceKind) {k : Connection} (hk : k.server.IgnoresPayloads)
    {s s' : kind.State} (h : kind.veil.Same s s') (kept : Field Unit) :
    kind.resource.validateConfig (.known s') = kind.resource.validateConfig (.known s) ∧
      RunAlike kind.veil.likeness (Managed.Alike kind.veil.Same)
        (kind.resource.createObject (some k) ⟨.known s, kept⟩)
        (kind.resource.createObject (some k) ⟨.known s', kept⟩) ∧
      RunAlike kind.veil.likeness (Managed.Alike kind.veil.Same)
        (kind.resource.readObject (some k) ⟨.known s, kept⟩)
        (kind.resource.readObject (some k) ⟨.known s', kept⟩) ∧
      RunAlike kind.veil.likeness (Managed.Alike kind.veil.Same)
        (kind.resource.updateObject (some k) ⟨.known s, kept⟩)
        (kind.resource.updateObject (some k) ⟨.known s', kept⟩) ∧
      RunAlike kind.veil.likeness Eq
        (kind.resource.destroyObject (some k) (.known s))
        (kind.resource.destroyObject (some k) (.known s')) := by
  obtain ⟨hvalidate, hop⟩ := kind.veil_covers
  simp only [Resource.operations, Resource.onObject, List.forall_mem_cons, Option.mem_toList] at hop
  obtain ⟨hcreate, hread, hdelete, hupdate⟩ := hop
  have hconnection : k.Alike kind.veil.likeness k := .refl k hk
  have hobject : Managed.Alike kind.veil.Same ⟨.known s, kept⟩ ⟨.known s', kept⟩ := ⟨.known h, rfl⟩
  refine ⟨?_, ?_, ?_, ?_, ?_⟩
  · exact h.eq_of_veiled kind.resource.validate hvalidate
  · exact Resource.createObject_alike hcreate hconnection hobject
  · exact Resource.readObject_alike hread hconnection hobject
  · exact Resource.updateObject_alike hupdate hconnection hobject
  · exact Resource.destroyObject_alike hdelete hconnection (.known h)

/-- A destination that logs are sent to with a token. -/
def splunkWith (token : String) : Logging.State where
  id := .known "l1"
  name := .known "logs"
  receiveAuditLogs := .known false
  cloudWatch := .known []
  datadog := .known []
  splunk := .known [⟨.known "host", .known 8088, .known token, .null, .null⟩]

/-- What is sent shows the token, and nothing else does. -/
theorem secrets_unseen_splunk :
    let k : Connection := ⟨.of "http://cp" "a" "b", Http.Script.server []⟩
    Logging.body (splunkWith "t1") ≠ Logging.body (splunkWith "t2") ∧
      RunAlike Logging.veil.likeness (Managed.Alike Logging.veil.Same)
        (Logging.resource.updateObject (some k) ⟨.known (splunkWith "t1"), .null⟩)
        (Logging.resource.updateObject (some k) ⟨.known (splunkWith "t2"), .null⟩) := by
  intro k
  have hsent (token : String) : Logging.ofState (splunkWith token) =
      .ok ⟨"", "logs", false, none, none, some ⟨"host", "8088", token, "", false⟩⟩ := by
    have hport : Text.Decimal.render 8088 = "8088" := by cbv
    simp [Logging.ofState, splunkWith, Logging.Splunk.ofState, hport, Field.text]
  refine ⟨?_, ?_⟩
  · rw [Logging.body, Logging.body, hsent, hsent]
    simp [Except.map, Logging.toJson, Json.optionMember, Logging.Splunk.toJson]
  · have hserver : k.server.IgnoresPayloads := Http.Script.ignoresPayloads []
    have hsame : (veil .logging).Same (splunkWith "t1") (splunkWith "t2") := rfl
    exact (secrets_unseen .logging hserver hsame .null).2.2.2.1

end ControlPlane.ResourceKind
