import ControlPlane.Proofs.Atomicity
import ControlPlane.Proofs.Plan

/-!
Changes in place. What is planned without a trigger stays at the address of the object, and the
resource has an update that brings it about.
-/
namespace ControlPlane

namespace Resource
variable {S : Type} {r : Resource S}

/-- All operations on an object go to one address in both states, or fail alike to find one. -/
def SameAddress (r : Resource S) (s s' : S) : Prop :=
  ∀ op ∈ r.onObject, ∀ base, op.url s' base = op.url s base

/-- No failure of an operation reads as if the resource had no update. -/
theorem summary_failed_ne (r : Resource S) (kind : OperationKind) (failure : Failure) :
    (r.failed kind failure).summary ≠ s!"{r.typeName} cannot be updated in place" := by
  intro h
  have hsummary : "Unable to " ++ kind.name ++ " " ++ r.typeName =
      "cyral_" ++ r.name ++ " cannot be updated in place" := h
  have hhead := congrArg (·.toList.head?) hsummary
  simp at hhead

theorem eq_failed_of_updateObject {op : Operation S} (hop : r.update = some op)
    {k? : Option Connection} {s : S} {kept : Field Unit} {session session' : Session}
    {d : Diagnostic} (h : r.updateObject k? ⟨.known s, kept⟩ session = .error d session') :
    ∃ failure, d = r.failed op.kind failure := by
  have hreports := updateObject_reports hop k? s kept session
  have hshown : (r.updateObject k? ⟨.known s, kept⟩).shown session [] = (none, [d], session') := by
    simp only [Step.shown, h, List.nil_append]
  cases k? with
  | none =>
    have hnone := hshown.symm.trans (hreports.unconfigured rfl [])
    exact ⟨_, by simpa using congrArg (·.2.1) hnone⟩
  | some k =>
    cases hrun : (op.execute k s session).outcome with
    | error failure =>
      have hfails := hshown.symm.trans (hreports.fails rfl hrun [])
      exact ⟨failure, by simpa using congrArg (·.2.1) hfails⟩
    | ok outcome =>
      have hsucceeds := hshown.symm.trans (hreports.succeeds rfl hrun [])
      simp at hsucceeds

theorem eq_or_isSome_update_of_triggers [DecidableEq S] {prior planned : S}
    (h : r.triggers prior planned = []) : planned = prior ∨ r.update.isSome := by
  unfold triggers at h
  split at h
  · split_ifs at h with hupdate
    rw [not_and_or, ne_eq, not_not] at hupdate
    rcases hupdate with hsome | rfl
    · exact .inr (by simpa [Option.isSome_iff_ne_none] using hsome)
    · exact .inl rfl
  · next hne => exact absurd h hne

end Resource

namespace ResourceKind
variable {kind : ResourceKind} {s s' : kind.State}

theorem delete_url (kind : ResourceKind) : kind.resource.delete.url = kind.resource.read.url := by
  cases kind <;> rfl

theorem update_url (kind : ResourceKind) :
    ∀ op ∈ kind.resource.update, op.url = kind.resource.read.url := by
  cases kind <;> rintro op ⟨⟩ <;> rfl

theorem url_eq_read_url (kind : ResourceKind) :
    ∀ op ∈ kind.resource.onObject, op.url = kind.resource.read.url := by
  simp only [Resource.onObject, List.forall_mem_cons, Option.mem_toList]
  exact ⟨trivial, kind.delete_url, kind.update_url⟩

/-- The address is looked for in the parts of the ID alone. -/
theorem read_url_of_parts (h : kind.identity.parts s' = kind.identity.parts s) (base : String) :
    kind.resource.read.url s' base = kind.resource.read.url s base := by
  cases kind with
  | binding | userAccount | listener =>
    simp only [identity, Binding.identity, UserAccount.identity, Listener.identity,
      Identity.composed, List.cons.injEq, and_true] at h
    simp only [resource, Binding.resource, Binding.objectUrl, Binding.collectionUrl,
      UserAccount.resource, UserAccount.objectUrl, UserAccount.collectionUrl,
      Listener.resource, Listener.objectUrl, Listener.collectionUrl, h]
  | _ =>
    have hpart := List.singleton_inj.mp h
    simp only [resource, Datadog.resource, Datadog.objectUrl, Logging.resource, Logging.objectUrl,
      Webhook.resource, Webhook.objectUrl, Webhook.collectionUrl, Policy.resource,
      Policy.objectUrl, Repository.resource, Repository.objectUrl, DataLabel.resource,
      DataLabel.objectUrl, AuthSettings.resource, AuthSettings.objectUrl,
      ServiceAccount.resource, ServiceAccount.objectUrl, Sidecar.resource, Sidecar.objectUrl,
      SidecarCredentials.resource, SidecarCredentials.objectUrl, hpart]

theorem sameAddress_of_parts (h : kind.identity.parts s' = kind.identity.parts s) :
    kind.resource.SameAddress s s' := by
  intro op hop base
  rw [kind.url_eq_read_url op hop]
  exact read_url_of_parts h base

/--
A change that is planned in place stays at the address of the object. If there is something to
change then the resource has an update, so that no attempt is told that there is none. A change
that leads to another address has a trigger.
-/
theorem sameAddress_of_inPlace (kind : ResourceKind) {prior proposed : kind.State}
    (carried : kind.identity.computed proposed = kind.identity.computed prior)
    (kept : Field Unit) :
    ∃ planned triggers, kind.resource.planUpdate (.known prior) (.known proposed) kept =
        (⟨.known planned, kept⟩, triggers) ∧
      (triggers = [] → kind.resource.SameAddress prior planned ∧
        (planned ≠ prior → kind.resource.update.isSome ∧ ∀ k? session d session',
          kind.resource.updateObject k? ⟨.known planned, kept⟩ session = .error d session' →
            d.summary ≠ s!"{kind.resource.typeName} cannot be updated in place")) ∧
      (∀ op ∈ kind.resource.onObject, ∀ base, op.url planned base ≠ op.url prior base →
        triggers ≠ []) := by
  have haddress (hinPlace : (kind.resource.planUpdate (.known prior) (.known proposed) kept).2 =
      []) : kind.resource.SameAddress prior (kind.resource.applyDefaults proposed) :=
    sameAddress_of_parts
      (kind.identity_lawful.plans carried (Resource.replaceTriggers_of_inPlace hinPlace)).2
  refine ⟨_, _, rfl, fun hinPlace => ⟨haddress hinPlace, fun hne => ?_⟩, ?_⟩
  · have hupdate := (Resource.eq_or_isSome_update_of_triggers hinPlace).resolve_left hne
    refine ⟨hupdate, fun k? session d session' hrun => ?_⟩
    obtain ⟨op, hop⟩ := Option.isSome_iff_exists.mp hupdate
    obtain ⟨failure, rfl⟩ := Resource.eq_failed_of_updateObject hop hrun
    exact Resource.summary_failed_ne _ _ _
  · intro op hop base hurl hinPlace
    exact hurl (haddress hinPlace op hop base)

end ResourceKind

namespace Binding

/-- The binding as it is proposed to be turned off, with the node left to its default. -/
def State.turnedOff : State :=
  { State.named with enabled := .known false, references := .known [⟨.known "l1", .null⟩] }

/-- A binding is turned off in place. To bind it to another sidecar replaces it. -/
theorem sameAddress_of_turnedOff :
    (∃ planned, resource.planUpdate (.known .named) (.known .turnedOff) .null =
        (⟨.known planned, .null⟩, []) ∧ planned ≠ .named ∧
      resource.SameAddress .named planned ∧ resource.update.isSome) ∧
    (resource.planUpdate (.known .named)
      (.known { State.turnedOff with sidecarId := .known "s2" }) .null).2 ≠ [] := by
  constructor
  · have hcarried : ResourceKind.binding.identity.computed State.turnedOff =
        ResourceKind.binding.identity.computed State.named := rfl
    obtain ⟨planned, triggers, hplan, hinPlace, -⟩ :=
      ResourceKind.sameAddress_of_inPlace .binding hcarried .null
    obtain ⟨hplanned, rfl⟩ := Prod.mk.inj hplan
    obtain rfl := Field.known.inj (Managed.mk.inj hplanned).1
    obtain ⟨haddress, hupdate⟩ := hinPlace rfl
    have hne : resource.applyDefaults .turnedOff ≠ .named := by decide
    exact ⟨_, hplan, hne, haddress, (hupdate hne).1⟩
  · have hcarried : ResourceKind.binding.identity.computed
        { State.turnedOff with sidecarId := .known "s2" } =
          ResourceKind.binding.identity.computed State.named := rfl
    obtain ⟨planned, triggers, hplan, -, hmoved⟩ :=
      ResourceKind.sameAddress_of_inPlace .binding hcarried .null
    obtain ⟨hplanned, rfl⟩ := Prod.mk.inj hplan
    obtain rfl := Field.known.inj (Managed.mk.inj hplanned).1
    exact hmoved resource.read (List.mem_cons_self ..) "http://cp" (by decide)

end Binding
end ControlPlane
