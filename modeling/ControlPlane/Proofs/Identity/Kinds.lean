import ControlPlane.Catalog
import ControlPlane.Proofs.Identity

/-! The identities of all that is managed. -/
namespace ControlPlane

@[simp] theorem Resource.changed_eq_nil_iff {α : Type} [DecidableEq α] {name : String} {a b : α} :
    Resource.changed name a b = [] ↔ a = b := by
  unfold Resource.changed
  split_ifs with h <;> simp [h]

namespace Datadog

def identity : Identity State := .own (·.id) "/v1/integrations/datadog"

theorem identity_lawful : identity.Lawful resource := by
  refine .own ?_ ?_ (fun _ => rfl) (fun _ => rfl) rfl (fun _ _ => rfl) rfl
    (fun _ _ => rfl) fun _ => rfl
  · intro s s' hm hid
    cases s
    cases s'
    simp_all [resource]
  · intro s a base h
    simp [Resource.onObject, resource, objectUrl, h, String.append_assoc]

end Datadog

namespace Logging

def identity : Identity State := .own (·.id) "/v1/integrations/logging"

theorem identity_lawful : identity.Lawful resource := by
  refine .own ?_ ?_ (fun _ => rfl) (fun _ => rfl) rfl (fun _ _ => rfl) rfl
    (fun _ _ => rfl) fun _ => rfl
  · intro s s' hm hid
    cases s
    cases s'
    simp_all [resource]
  · intro s a base h
    simp [Resource.onObject, resource, objectUrl, h, String.append_assoc]

end Logging

namespace Policy

def identity : Identity State := .own (·.id) "/v1/policies"

theorem identity_lawful : identity.Lawful resource := by
  refine .own ?_ ?_ (fun _ => rfl) (fun _ => rfl) rfl (fun _ _ => rfl) rfl
    (fun _ _ => rfl) fun _ => rfl
  · intro s s' hm hid
    cases s
    cases s'
    simp_all [resource]
  · intro s a base h
    simp [Resource.onObject, resource, objectUrl, h, String.append_assoc]

end Policy

namespace Repository

def identity : Identity State := .own (·.id) "/v1/repos"

theorem identity_lawful : identity.Lawful resource := by
  refine .own ?_ ?_ (fun _ => rfl) (fun _ => rfl) rfl (fun _ _ => rfl) rfl
    (fun _ _ => rfl) fun _ => rfl
  · intro s s' hm hid
    cases s
    cases s'
    simp_all [resource]
  · intro s a base h
    simp [Resource.onObject, resource, objectUrl, h, String.append_assoc]

end Repository

namespace Sidecar

def identity : Identity State := .own (·.id) "/v1/sidecars"

theorem identity_lawful : identity.Lawful resource := by
  refine .own ?_ ?_ (fun _ => rfl) (fun _ => rfl) rfl (fun _ _ => rfl) rfl
    (fun _ _ => rfl) fun _ => rfl
  · intro s s' hm hid
    cases s
    cases s'
    simp_all [resource]
  · intro s a base h
    simp [Resource.onObject, resource, objectUrl, h, String.append_assoc]

end Sidecar

namespace Webhook

def identity (service : Service) : Identity State :=
  .own (·.id) ("/v1/integrations/notifications/" ++ service.segment)

theorem identity_lawful (service : Service) : (identity service).Lawful (resource service) := by
  refine .own ?_ ?_ (fun _ => rfl) (fun _ => rfl) rfl (fun _ _ => rfl) rfl
    (fun _ _ => rfl) fun _ => rfl
  · intro s s' hm hid
    cases s
    cases s'
    simp_all [resource]
  · intro s a base h
    simp [Resource.onObject, resource, objectUrl, collectionUrl, h, String.append_assoc]

end Webhook

namespace Listener

/-- The first step of the writer is the only one that can fail. -/
theorem created_eq (id : String) (s : State) :
    created id s = match s.sidecarId.require "sidecar_id" with
      | .ok a => .ok () { s with
          id := .known (ComposedId.join ComposedId.separator [a, id]), listenerId := .known id }
      | .error failure => .error failure s := by
  obtain ⟨_, sidecarId, _, _, _⟩ := s
  cases sidecarId <;> rfl

theorem exists_of_created {id : String} {s s' : State} (h : created id s = .ok () s') :
    ∃ a, s.sidecarId = .known a ∧ s' = { s with
      id := .known (ComposedId.join ComposedId.separator [a, id]), listenerId := .known id } := by
  rw [created_eq] at h
  split at h
  · next a ha =>
    cases h
    exact ⟨a, Field.require_eq_ok_iff.mp ha, rfl⟩
  · cases h

def identity : Identity State :=
  .composed (·.id) (·.sidecarId) (·.listenerId) fun a b => listPath a ++ "/" ++ b

theorem identity_lawful : identity.Lawful resource := by
  refine .composed ?_ ?_ ?_ rfl ?_ rfl (fun _ _ => ⟨rfl, rfl, rfl⟩)
    (fun _ => ⟨rfl, rfl⟩) ?_
  · intro s s' hm hid hpart
    cases s
    cases s'
    simp_all [resource]
  · intro s a b base ha hb
    simp [Resource.onObject, resource, objectUrl, collectionUrl, ha, hb, String.append_assoc]
  · intro a s h
    have himport : importState a = .ok s := h
    obtain ⟨b, c, hpair, rfl⟩ := ComposedId.importPair_eq_ok_iff.mp himport
    exact ⟨b, c, hpair, rfl, rfl, rfl⟩
  · intro b s s' h
    obtain ⟨a, ha, rfl⟩ := exists_of_created h
    exact ⟨a, ha, rfl, congrArg _ (ComposedId.join_eq_intercalate _ _)⟩
  · intro s s' h
    exact (Resource.changed_eq_nil_iff.mp h).symm

end Listener

namespace Binding

theorem created_eq (id : String) (s : State) :
    created id s = match s.sidecarId.require "sidecar_id" with
      | .ok a => .ok () { s with
          id := .known (ComposedId.join ComposedId.separator [a, id]), bindingId := .known id }
      | .error failure => .error failure s := by
  obtain ⟨_, sidecarId, _, _, _, _⟩ := s
  cases sidecarId <;> rfl

theorem exists_of_created {id : String} {s s' : State} (h : created id s = .ok () s') :
    ∃ a, s.sidecarId = .known a ∧ s' = { s with
      id := .known (ComposedId.join ComposedId.separator [a, id]), bindingId := .known id } := by
  rw [created_eq] at h
  split at h
  · next a ha =>
    cases h
    exact ⟨a, Field.require_eq_ok_iff.mp ha, rfl⟩
  · cases h

def identity : Identity State :=
  .composed (·.id) (·.sidecarId) (·.bindingId) fun a b => listPath a ++ "/" ++ b

theorem identity_lawful : identity.Lawful resource := by
  refine .composed ?_ ?_ ?_ rfl ?_ rfl (fun _ _ => ⟨rfl, rfl, rfl⟩)
    (fun _ => ⟨rfl, rfl⟩) ?_
  · intro s s' hm hid hpart
    cases s
    cases s'
    simp_all [resource]
  · intro s a b base ha hb
    simp [Resource.onObject, resource, objectUrl, collectionUrl, ha, hb, String.append_assoc]
  · intro a s h
    have himport : importState a = .ok s := h
    obtain ⟨b, c, hpair, rfl⟩ := ComposedId.importPair_eq_ok_iff.mp himport
    exact ⟨b, c, hpair, rfl, rfl, rfl⟩
  · intro b s s' h
    obtain ⟨a, ha, rfl⟩ := exists_of_created h
    exact ⟨a, ha, rfl, congrArg _ (ComposedId.join_eq_intercalate _ _)⟩
  · intro s s' h
    exact (Resource.changed_eq_nil_iff.mp (List.append_eq_nil_iff.mp h).1).symm

end Binding

namespace UserAccount

theorem created_eq (id : String) (s : State) :
    created id s = match s.repositoryId.require "repository_id" with
      | .ok a => .ok () { s with
          id := .known (ComposedId.join ComposedId.separator [a, id]), userAccountId := .known id }
      | .error failure => .error failure s := by
  obtain ⟨_, repositoryId, _, _, _, _⟩ := s
  cases repositoryId <;> rfl

theorem exists_of_created {id : String} {s s' : State} (h : created id s = .ok () s') :
    ∃ a, s.repositoryId = .known a ∧ s' = { s with
      id := .known (ComposedId.join ComposedId.separator [a, id])
      userAccountId := .known id } := by
  rw [created_eq] at h
  split at h
  · next a ha =>
    cases h
    exact ⟨a, Field.require_eq_ok_iff.mp ha, rfl⟩
  · cases h

def identity : Identity State :=
  .composed (·.id) (·.repositoryId) (·.userAccountId) fun a b =>
    "/v1/repos/" ++ a ++ "/userAccounts/" ++ b

theorem identity_lawful : identity.Lawful resource := by
  refine .composed ?_ ?_ ?_ rfl ?_ rfl (fun _ _ => ⟨rfl, rfl, rfl⟩)
    (fun _ => ⟨rfl, rfl⟩) ?_
  · intro s s' hm hid hpart
    cases s
    cases s'
    simp_all [resource]
  · intro s a b base ha hb
    simp [Resource.onObject, resource, objectUrl, collectionUrl, ha, hb, String.append_assoc]
    rw [← String.append_assoc]
    rfl
  · intro a s h
    have himport : importState a = .ok s := h
    obtain ⟨b, c, hpair, rfl⟩ := ComposedId.importPair_eq_ok_iff.mp himport
    exact ⟨b, c, hpair, rfl, rfl, rfl⟩
  · intro b s s' h
    obtain ⟨a, ha, rfl⟩ := exists_of_created h
    exact ⟨a, ha, rfl, congrArg _ (ComposedId.join_eq_intercalate _ _)⟩
  · intro s s' h
    exact (Resource.changed_eq_nil_iff.mp h).symm

end UserAccount

namespace DataLabel

def identity : Identity State := .named (·.id) (·.name) fun a => "/v1/datalabels/" ++ a

theorem identity_lawful : identity.Lawful resource := by
  refine .named ?_ ?_ (fun _ => rfl) (fun _ => ⟨rfl, rfl⟩) rfl ?_ (fun _ => rfl) rfl
    (fun _ _ => ⟨rfl, rfl⟩) (fun _ => rfl) fun _ _ h => (Resource.changed_eq_nil_iff.mp h).symm
  · intro s s' hm hid
    cases s
    cases s'
    simp_all [resource]
  · intro s a base h
    simp [Resource.onObject, resource, objectUrl, h, String.append_assoc]
  · intro s base url h
    obtain ⟨a, ha, -⟩ := bind_eq_ok_iff.mp h
    exact ⟨a, Field.require_eq_ok_iff.mp ha⟩

end DataLabel

namespace AuthSettings

def identity : Identity State :=
  .named (·.id) (·.repositoryId) fun a => "/v1/repos/" ++ a ++ "/conf/auth"

theorem identity_lawful : identity.Lawful resource := by
  refine .named ?_ ?_ (fun _ => rfl) (fun _ => ⟨rfl, rfl⟩) rfl ?_ (fun _ => rfl) rfl
    (fun _ _ => ⟨rfl, rfl⟩) (fun _ => rfl) fun _ _ h => (Resource.changed_eq_nil_iff.mp h).symm
  · intro s s' hm hid
    cases s
    cases s'
    simp_all [resource]
  · intro s a base h
    simp [Resource.onObject, resource, objectUrl, h, String.append_assoc]
  · intro s base url h
    obtain ⟨a, ha, -⟩ := bind_eq_ok_iff.mp h
    exact ⟨a, Field.require_eq_ok_iff.mp ha⟩

end AuthSettings

namespace ServiceAccount

def identity : Identity State where
  id := (·.id)
  parts s := [s.clientId]
  computed s := [s.id, s.clientId, s.clientSecret]
  path ps := "/v1/users/serviceAccounts/" ++ ps.headD ""

theorem identity_lawful : identity.Lawful resource where
  owns {s s'} hm hc := by
    cases s
    cases s'
    simp_all [resource, identity]
  url {s ps} h base := by
    obtain ⟨a, rfl, ha⟩ := Identity.singleton_eq_map_known.mp h
    simp [Resource.onObject, resource, objectUrl, identity, ha, String.append_assoc]
  imports h := by
    cases h
    exact .single rfl rfl
  creates _ hw := by
    obtain ⟨c, -, rfl⟩ := (Operation.writes_iff_of_response_eq_of rfl).mp hw
    exact .single rfl rfl
  reads _ hw := by
    obtain ⟨c, -, rfl⟩ := (Operation.writes_iff_of_response_eq_of rfl).mp hw
    exact .inl ⟨rfl, rfl⟩
  plans hc _ := by
    simp only [identity, List.cons.injEq] at hc
    exact ⟨hc.1, congrArg ([·]) hc.2.1⟩

end ServiceAccount

namespace SidecarCredentials

/-- A read takes over the names that a reply gives, so that it can go over to another object. -/
def identity : Identity State where
  id := (·.id)
  parts s := [s.clientId]
  computed s := [s.id, s.clientId, s.clientSecret]
  path ps := "/v1/users/sidecarAccounts/" ++ ps.headD ""
  named? j := (Info.ofJson? j).map (·.clientId)

theorem identity_lawful : identity.Lawful resource where
  owns {s s'} hm hc := by
    cases s
    cases s'
    simp_all [resource, identity]
  url {s ps} h base := by
    obtain ⟨a, rfl, ha⟩ := Identity.singleton_eq_map_known.mp h
    simp [Resource.onObject, resource, objectUrl, identity, ha, String.append_assoc]
  imports h := by
    cases h
    exact .single rfl rfl
  creates _ hw := by
    obtain ⟨c, -, rfl⟩ := (Operation.writes_iff_of_response_eq_of rfl).mp hw
    exact .single rfl rfl
  reads _ hw := by
    obtain ⟨c, hc, rfl⟩ := (Operation.writes_iff_of_response_eq_of rfl).mp hw
    exact .inr ⟨c.clientId, by simp only [identity, hc, Option.map_some], rfl, rfl⟩
  plans hc _ := by
    simp only [identity, List.cons.injEq] at hc
    exact ⟨hc.1, congrArg ([·]) hc.2.1⟩

end SidecarCredentials

namespace ResourceKind

def identity : (kind : ResourceKind) → Identity kind.State
  | .dataLabel => DataLabel.identity
  | .datadog => Datadog.identity
  | .logging => Logging.identity
  | .microsoftTeams => Webhook.identity .microsoftTeams
  | .slack => Webhook.identity .slack
  | .policy => Policy.identity
  | .repository => Repository.identity
  | .binding => Binding.identity
  | .authSettings => AuthSettings.identity
  | .userAccount => UserAccount.identity
  | .serviceAccount => ServiceAccount.identity
  | .sidecar => Sidecar.identity
  | .sidecarCredentials => SidecarCredentials.identity
  | .listener => Listener.identity

theorem identity_lawful : (kind : ResourceKind) → kind.identity.Lawful kind.resource
  | .dataLabel => DataLabel.identity_lawful
  | .datadog => Datadog.identity_lawful
  | .logging => Logging.identity_lawful
  | .microsoftTeams => Webhook.identity_lawful .microsoftTeams
  | .slack => Webhook.identity_lawful .slack
  | .policy => Policy.identity_lawful
  | .repository => Repository.identity_lawful
  | .binding => Binding.identity_lawful
  | .authSettings => AuthSettings.identity_lawful
  | .userAccount => UserAccount.identity_lawful
  | .serviceAccount => ServiceAccount.identity_lawful
  | .sidecar => Sidecar.identity_lawful
  | .sidecarCredentials => SidecarCredentials.identity_lawful
  | .listener => Listener.identity_lawful

/-- Only the credentials of a sidecar are named anew by a read. -/
theorem named?_eq_some {kind : ResourceKind} {j : Json} {name : String}
    (h : kind.identity.named? j = some name) :
    kind = .sidecarCredentials ∧
      ∃ info, SidecarCredentials.Info.ofJson? j = some info ∧ info.clientId = name := by
  cases kind with
  | sidecarCredentials => exact ⟨rfl, Option.map_eq_some_iff.mp h⟩
  | _ => cases h

end ResourceKind
end ControlPlane
