import ControlPlane.Proofs.Atomicity
import ControlPlane.Proofs.Attribute
import ControlPlane.Proofs.Plan

/-!
Required attributes. A request that is sent has a known value for each of them, in all the blocks
that go into it, but for two lists that are sent empty instead.
-/
namespace ControlPlane
open Exchange (toValue)

/-- Null, or still unknown. -/
def Value.isOpen : Value → Bool
  | .null | .unknown => true
  | _ => false

/-- The blocks that are sent of a value: all of a list, and the first of a list limited to one. -/
def Nesting.sent : Nesting → Value → List Value
  | .single, .object members => [.object members]
  | .list, .list blocks => blocks
  | .optional, .list blocks => blocks.take 1
  | _, _ => []

mutual

/-- The paths of the required attributes that a value leaves open. -/
def Block.lacking : Block → Value → List (List String)
  | .mk _ attributes blocks, value =>
    (attributes.filter fun a =>
      a.2.constraint = .required && (value.member? a.1).all Value.isOpen).map (fun a => [a.1]) ++
      Block.lackingIn blocks value

def Block.lackingIn : List (String × Nesting × Block) → Value → List (List String)
  | [], _ => []
  | (name, nesting, block) :: rest, value =>
    ((nesting.sent ((value.member? name).getD .null)).flatMap fun b => block.lacking b).map
      (name :: ·) ++ Block.lackingIn rest value

end

/-- What a calculation that goes through makes sure of, of a block that goes into it. -/
theorem forall_mem_of_mapM_option {ε α β : Type} {f : α → Except ε β} {P : α → Prop}
    (hf : ∀ a b, f a = .ok b → P a) {a : Option α} {b : Option β} (h : a.mapM f = .ok b) :
    ∀ x ∈ a, P x := by
  rcases mapM_option_eq_ok_iff.mp h with ⟨rfl, -⟩ | ⟨x, y, rfl, -, hy⟩
  · simp
  · simpa using hf x y hy

theorem forall_mem_of_mapM_list {ε α β : Type} {f : α → Except ε β} {P : α → Prop}
    (hf : ∀ a b, f a = .ok b → P a) {as : List α} {bs : List β} (h : as.mapM f = .ok bs) :
    ∀ x ∈ as, P x := by
  induction as generalizing bs with
  | nil => simp
  | cons a as ih =>
    rw [List.mapM_cons] at h
    obtain ⟨b, hb, h⟩ := bind_eq_ok_iff.mp h
    obtain ⟨rest, hrest, -⟩ := bind_eq_ok_iff.mp h
    exact List.forall_mem_cons.mpr ⟨hf a b hb, ih hrest⟩

theorem Field.isKnown_of_require {α β : Type} {x : Field α} {name : String}
    {f : α → Except Failure β} {b : β} (h : x.require name >>= f = .ok b) : x.isKnown := by
  obtain ⟨a, rfl, -⟩ := require_bind_eq_ok_iff.mp h
  rfl

namespace Nesting
variable {α : Type} [Exchange α] {x : Field (List α)} {P : Value → Prop}

theorem forall_sent_optional (h : ∀ a ∈ x.first, P (toValue a)) :
    ∀ b ∈ Nesting.optional.sent (toValue x), P b := by
  have hsent : Nesting.optional.sent (toValue x) = x.first.toList.map toValue := by
    cases x with
    | null | unknown => rfl
    | known as => cases as <;> rfl
  simpa [hsent] using h

theorem forall_sent_list (h : ∀ a ∈ x.elems, P (toValue a)) :
    ∀ b ∈ Nesting.list.sent (toValue x), P b := by
  have hsent : Nesting.list.sent (toValue x) = x.elems.map toValue := by
    cases x <;> rfl
  simpa [hsent] using h

end Nesting

namespace Block
variable {description : Description} {attributes : List (String × Attribute)}
  {blocks rest : List (String × Nesting × Block)} {name : String} {nesting : Nesting}
  {block : Block} {value : Value}

/-- Blocks that lack nothing leave what the attributes lack. -/
theorem lacking_subset_of_blocks {exempt : List (List String)}
    (hblocks : lackingIn blocks value = [])
    (h : (mk description attributes []).lacking value ⊆ exempt) :
    (mk description attributes blocks).lacking value ⊆ exempt := by
  simp only [lacking, hblocks, lackingIn] at h ⊢
  exact h

theorem lackingIn_cons_eq_nil
    (h : ∀ b ∈ nesting.sent ((value.member? name).getD .null), block.lacking b = [])
    (hrest : lackingIn rest value = []) :
    lackingIn ((name, nesting, block) :: rest) value = [] := by
  rw [lackingIn, hrest, List.flatMap_eq_nil_iff.mpr h]
  rfl

end Block

namespace Resource
variable {S : Type} [Exchange S] {r : Resource S} {exempt : List (List String)}

/-- The requests of a new object and of an update are complete: nothing is lacking in them that the
schema requires, except for what is exempt. -/
def Demands (r : Resource S) (exempt : List (List String)) : Prop :=
  ∀ op ∈ r.create :: r.update.toList, ∀ s base sent, op.request s base = .ok sent →
    r.schema.block.lacking (toValue s) ⊆ exempt

theorem Demands.of_parts {encode : S → Except Failure Json} {A : S → Prop}
    (hcreate : r.create.body = some encode ∧
      ∀ s base url, r.create.url s base = .ok url → A s)
    (hupdate : ∀ op ∈ r.update, op.body = some encode ∧
      ∀ s base url, op.url s base = .ok url → A s)
    (h : ∀ s j, A s → encode s = .ok j → r.schema.block.lacking (toValue s) ⊆ exempt) :
    r.Demands exempt := by
  intro op hop s base sent hsent
  obtain ⟨url, payload⟩ := sent
  obtain ⟨hurl, hpayload⟩ := Operation.request_eq_ok_iff.mp hsent
  have hop : op.body = some encode ∧ ∀ s base url, op.url s base = .ok url → A s := by
    rcases List.mem_cons.mp hop with rfl | hop
    · exact hcreate
    · exact hupdate op (Option.mem_toList.mp hop)
  simp only [Operation.payload, hop.1] at hpayload
  obtain ⟨j, hj, -⟩ := map_eq_ok_iff.mp hpayload
  exact h s j (hop.2 s base url hurl) hj

theorem Demands.of_body {encode : S → Except Failure Json} (hcreate : r.create.body = some encode)
    (hupdate : ∀ op ∈ r.update, op.body = some encode)
    (h : ∀ s j, encode s = .ok j → r.schema.block.lacking (toValue s) ⊆ exempt) :
    r.Demands exempt :=
  .of_parts (A := fun _ => True) ⟨hcreate, fun _ _ _ _ => trivial⟩
    (fun op hop => ⟨hupdate op hop, fun _ _ _ _ => trivial⟩) fun s j _ hj => h s j hj

/-- An object that is created below another is updated at an address that begins with that one's. -/
theorem Demands.of_collection {encode : S → Except Failure Json} {T : Type} (key : S → Field T)
    {collection : S → String → Except Failure String}
    (hkey : ∀ s base url, collection s base = .ok url → (key s).isKnown)
    (hcreate : r.create.body = some encode ∧ r.create.url = collection)
    (hupdate : ∀ op ∈ r.update, op.body = some encode ∧
      ∀ s base, ∃ f, op.url s base = collection s base >>= f)
    (h : ∀ s j, (key s).isKnown → encode s = .ok j →
      r.schema.block.lacking (toValue s) ⊆ exempt) : r.Demands exempt := by
  refine .of_parts ⟨hcreate.1, hcreate.2 ▸ hkey⟩ (fun op hop => ⟨(hupdate op hop).1, ?_⟩) h
  intro s base url hurl
  obtain ⟨f, hf⟩ := (hupdate op hop).2 s base
  rw [hf] at hurl
  obtain ⟨place, hplace, -⟩ := ControlPlane.bind_eq_ok_iff.mp hurl
  exact hkey s base place hplace

end Resource

namespace Datadog

theorem demands : resource.Demands [] := by
  refine .of_body rfl (by simp [resource]) ?_
  rintro ⟨id, name, apiKey⟩ j h
  obtain ⟨d, hd, -⟩ := map_eq_ok_iff.mp h
  obtain ⟨_, rfl, hd⟩ := Field.require_bind_eq_ok_iff.mp hd
  obtain ⟨_, rfl, -⟩ := Field.require_bind_eq_ok_iff.mp hd
  exact List.Subset.refl []

end Datadog

namespace Webhook

theorem demands (service : Service) : (resource service).Demands [] := by
  refine .of_body rfl (by simp [resource]) ?_
  rintro ⟨id, name, url⟩ j h
  obtain ⟨w, hw, -⟩ := map_eq_ok_iff.mp h
  obtain ⟨_, rfl, hw⟩ := Field.require_bind_eq_ok_iff.mp hw
  obtain ⟨_, rfl, -⟩ := Field.require_bind_eq_ok_iff.mp hw
  exact List.Subset.refl []

end Webhook

namespace Logging

theorem demands : resource.Demands [] := by
  refine .of_body rfl (by simp [resource]) ?_
  rintro ⟨id, name, audit, cloudWatch, datadog, splunk⟩ j h
  obtain ⟨l, hl, -⟩ := map_eq_ok_iff.mp h
  obtain ⟨_, hcloud, hl⟩ := bind_eq_ok_iff.mp hl
  obtain ⟨_, hdatadog, hl⟩ := bind_eq_ok_iff.mp hl
  obtain ⟨_, hsplunk, hl⟩ := bind_eq_ok_iff.mp hl
  obtain ⟨_, rfl, -⟩ := Field.require_bind_eq_ok_iff.mp hl
  refine Block.lacking_subset_of_blocks ?_ (List.Subset.refl [])
  refine Block.lackingIn_cons_eq_nil (Nesting.forall_sent_optional ?_)
    (Block.lackingIn_cons_eq_nil (Nesting.forall_sent_optional ?_)
      (Block.lackingIn_cons_eq_nil (Nesting.forall_sent_optional ?_) rfl))
  · refine forall_mem_of_mapM_option ?_ hcloud
    rintro ⟨region, group, stream⟩ _ hc
    obtain ⟨_, rfl, hc⟩ := Field.require_bind_eq_ok_iff.mp hc
    obtain ⟨_, rfl, -⟩ := Field.require_bind_eq_ok_iff.mp hc
    rfl
  · refine forall_mem_of_mapM_option ?_ hdatadog
    rintro ⟨apiKey⟩ _ hd
    obtain ⟨_, rfl, -⟩ := Field.require_bind_eq_ok_iff.mp hd
    rfl
  · refine forall_mem_of_mapM_option ?_ hsplunk
    rintro ⟨hostname, port, token, index, useTls⟩ _ hb
    obtain ⟨_, rfl, hb⟩ := Field.require_bind_eq_ok_iff.mp hb
    obtain ⟨_, rfl, hb⟩ := Field.require_bind_eq_ok_iff.mp hb
    obtain ⟨_, rfl, -⟩ := Field.require_bind_eq_ok_iff.mp hb
    rfl

end Logging

namespace Policy

theorem demands : resource.Demands [] := by
  refine .of_body rfl (by simp [resource]) ?_
  rintro ⟨id, name, description, enabled, tags, data⟩ j h
  obtain ⟨p, hp, -⟩ := map_eq_ok_iff.mp h
  obtain ⟨_, rfl, -⟩ := Field.require_bind_eq_ok_iff.mp hp
  exact List.Subset.refl []

end Policy

namespace Repository

theorem demands : resource.Demands [] := by
  refine .of_body rfl (by simp [resource]) ?_
  rintro ⟨id, type, name, labels, nodes, mongo⟩ j h
  obtain ⟨r, hr, -⟩ := map_eq_ok_iff.mp h
  obtain ⟨_, hmongo, hr⟩ := bind_eq_ok_iff.mp hr
  obtain ⟨_, rfl, hr⟩ := Field.require_bind_eq_ok_iff.mp hr
  obtain ⟨_, rfl, -⟩ := Field.require_bind_eq_ok_iff.mp hr
  refine Block.lacking_subset_of_blocks ?_ (List.Subset.refl [])
  refine Block.lackingIn_cons_eq_nil (Nesting.forall_sent_list fun _ _ => rfl)
    (Block.lackingIn_cons_eq_nil (Nesting.forall_sent_optional ?_) rfl)
  refine forall_mem_of_mapM_option ?_ hmongo
  rintro ⟨server, replicaSet, record⟩ _ hm
  obtain ⟨_, rfl, -⟩ := Field.require_bind_eq_ok_iff.mp hm
  rfl

end Repository

namespace Sidecar

theorem demands : resource.Demands [] := by
  refine .of_body rfl (by simp [resource]) ?_
  rintro ⟨id, name, deploymentMethod, labels, endpoint, integration⟩ j h
  obtain ⟨c, hc, -⟩ := map_eq_ok_iff.mp h
  obtain ⟨_, rfl, hc⟩ := Field.require_bind_eq_ok_iff.mp hc
  obtain ⟨_, rfl, -⟩ := Field.require_bind_eq_ok_iff.mp hc
  exact List.Subset.refl []

end Sidecar

namespace SidecarCredentials

theorem demands : resource.Demands [] := by
  refine .of_body rfl (by simp [resource]) ?_
  rintro ⟨id, sidecarId, clientId, clientSecret⟩ j h
  obtain ⟨_, rfl, -⟩ := Field.require_bind_eq_ok_iff.mp h
  exact List.Subset.refl []

end SidecarCredentials

namespace ServiceAccount

theorem demands : resource.Demands [["permission_ids"]] := by
  refine .of_body rfl (by simp [resource]) ?_
  rintro ⟨id, displayName, permissionIds, clientId, clientSecret⟩ j h
  obtain ⟨a, ha, -⟩ := map_eq_ok_iff.mp h
  obtain ⟨_, rfl, -⟩ := Field.require_bind_eq_ok_iff.mp ha
  cases permissionIds with
  | null | unknown => exact List.Subset.refl [["permission_ids"]]
  | known ids => exact List.nil_subset [["permission_ids"]]

end ServiceAccount

namespace DataLabel

theorem demands : resource.Demands [] := by
  have hname (s : State) (base url : String) (h : objectUrl s base = .ok url) : s.name.isKnown :=
    Field.isKnown_of_require h
  refine .of_parts ⟨rfl, hname⟩ (by rintro _ ⟨⟩; exact ⟨rfl, hname⟩) ?_
  rintro ⟨id, name, description, tags, rule⟩ j hname h
  obtain ⟨_, rfl⟩ := Field.isKnown_iff.mp hname
  obtain ⟨d, hd, -⟩ := map_eq_ok_iff.mp h
  obtain ⟨_, hrule, -⟩ := bind_eq_ok_iff.mp hd
  refine Block.lacking_subset_of_blocks ?_ (List.Subset.refl [])
  refine Block.lackingIn_cons_eq_nil (Nesting.forall_sent_optional ?_) rfl
  refine forall_mem_of_mapM_option ?_ hrule
  rintro ⟨type, code, status⟩ _ hr
  obtain ⟨_, rfl, -⟩ := Field.require_bind_eq_ok_iff.mp hr
  rfl

end DataLabel

namespace AuthSettings

theorem demands : resource.Demands [] := by
  have hrepository (s : State) (base url : String) (h : objectUrl s base = .ok url) :
      s.repositoryId.isKnown :=
    Field.isKnown_of_require h
  refine .of_parts ⟨rfl, hrepository⟩ (by rintro _ ⟨⟩; exact ⟨rfl, hrepository⟩) ?_
  rintro ⟨id, repositoryId, allowNativeAuth, clientTls, repoTls, authType⟩ j hrepository h
  obtain ⟨_, rfl⟩ := Field.isKnown_iff.mp hrepository
  exact List.Subset.refl []

end AuthSettings

namespace Listener

theorem demands : resource.Demands [["repo_types"]] := by
  refine .of_collection State.sidecarId (fun _ _ _ => Field.isKnown_of_require) ⟨rfl, rfl⟩ ?_ ?_
  · rintro _ ⟨⟩
    exact ⟨rfl, fun _ _ => ⟨_, rfl⟩⟩
  · rintro ⟨id, sidecarId, listenerId, repoTypes, address⟩ j hsidecar h
    obtain ⟨_, rfl⟩ := Field.isKnown_iff.mp hsidecar
    obtain ⟨l, hl, -⟩ := map_eq_ok_iff.mp h
    obtain ⟨⟨host, port⟩, rfl, hl⟩ := Field.require_bind_eq_ok_iff.mp hl
    obtain ⟨_, rfl, -⟩ := Field.require_bind_eq_ok_iff.mp hl
    cases repoTypes with
    | null | unknown => exact List.Subset.refl [["repo_types"]]
    | known types => exact List.nil_subset [["repo_types"]]

end Listener

namespace Binding

theorem demands : resource.Demands [] := by
  refine .of_collection State.sidecarId (fun _ _ _ => Field.isKnown_of_require) ⟨rfl, rfl⟩ ?_ ?_
  · rintro _ ⟨⟩
    exact ⟨rfl, fun _ _ => ⟨_, rfl⟩⟩
  · rintro ⟨id, sidecarId, repositoryId, bindingId, enabled, references⟩ j hsidecar h
    obtain ⟨_, rfl⟩ := Field.isKnown_iff.mp hsidecar
    obtain ⟨b, hb, -⟩ := map_eq_ok_iff.mp h
    obtain ⟨_, hreferences, hb⟩ := bind_eq_ok_iff.mp hb
    obtain ⟨_, rfl, -⟩ := Field.require_bind_eq_ok_iff.mp hb
    refine Block.lacking_subset_of_blocks ?_ (List.Subset.refl [])
    refine Block.lackingIn_cons_eq_nil (Nesting.forall_sent_list ?_) rfl
    refine forall_mem_of_mapM_list ?_ hreferences
    rintro ⟨listenerId, nodeIndex⟩ _ hr
    obtain ⟨_, rfl, -⟩ := Field.require_bind_eq_ok_iff.mp hr
    rfl

end Binding

namespace UserAccount

theorem demands : resource.Demands [] := by
  refine .of_collection State.repositoryId (fun _ _ _ => Field.isKnown_of_require) ⟨rfl, rfl⟩ ?_ ?_
  · rintro _ ⟨⟩
    exact ⟨rfl, fun _ _ => ⟨_, rfl⟩⟩
  · rintro ⟨id, repositoryId, userAccountId, name, database, authScheme⟩ j hrepository h
    obtain ⟨_, rfl⟩ := Field.isKnown_iff.mp hrepository
    obtain ⟨u, hu, -⟩ := map_eq_ok_iff.mp h
    obtain ⟨⟨environment, kubernetes, aws, vault⟩, rfl, hu⟩ := Field.require_bind_eq_ok_iff.mp hu
    obtain ⟨_, hscheme, hu⟩ := bind_eq_ok_iff.mp hu
    obtain ⟨_, rfl, -⟩ := Field.require_bind_eq_ok_iff.mp hu
    obtain ⟨_, henvironment, hscheme⟩ := bind_eq_ok_iff.mp hscheme
    obtain ⟨_, hkubernetes, hscheme⟩ := bind_eq_ok_iff.mp hscheme
    obtain ⟨_, haws, hscheme⟩ := bind_eq_ok_iff.mp hscheme
    obtain ⟨_, hvault, -⟩ := bind_eq_ok_iff.mp hscheme
    refine Block.lacking_subset_of_blocks ?_ (List.Subset.refl [])
    refine Block.lackingIn_cons_eq_nil (List.forall_mem_singleton.mpr ?_) rfl
    refine List.subset_nil.mp (Block.lacking_subset_of_blocks ?_ (List.Subset.refl []))
    refine Block.lackingIn_cons_eq_nil (Nesting.forall_sent_optional ?_)
      (Block.lackingIn_cons_eq_nil (Nesting.forall_sent_optional ?_)
        (Block.lackingIn_cons_eq_nil (Nesting.forall_sent_optional ?_)
          (Block.lackingIn_cons_eq_nil (Nesting.forall_sent_optional ?_) rfl)))
    · refine forall_mem_of_mapM_option ?_ henvironment
      rintro ⟨variableName⟩ _ he
      obtain ⟨_, rfl, -⟩ := Field.require_bind_eq_ok_iff.mp he
      rfl
    · refine forall_mem_of_mapM_option ?_ hkubernetes
      rintro ⟨secretName, secretKey⟩ _ hk
      obtain ⟨_, rfl, hk⟩ := Field.require_bind_eq_ok_iff.mp hk
      obtain ⟨_, rfl, -⟩ := Field.require_bind_eq_ok_iff.mp hk
      rfl
    · refine forall_mem_of_mapM_option ?_ haws
      rintro ⟨secretArn⟩ _ ha
      obtain ⟨_, rfl, -⟩ := Field.require_bind_eq_ok_iff.mp ha
      rfl
    · refine forall_mem_of_mapM_option ?_ hvault
      rintro ⟨path, isDynamic⟩ _ hv
      obtain ⟨_, rfl, -⟩ := Field.require_bind_eq_ok_iff.mp hv
      rfl

end UserAccount

namespace ResourceKind

/-- The required lists that are sent empty when they are open. -/
def emptied : ResourceKind → List (List String)
  | .listener => [["repo_types"]]
  | .serviceAccount => [["permission_ids"]]
  | _ => []

theorem demands : (kind : ResourceKind) → kind.resource.Demands kind.emptied
  | .dataLabel => DataLabel.demands
  | .datadog => Datadog.demands
  | .logging => Logging.demands
  | .microsoftTeams => Webhook.demands .microsoftTeams
  | .slack => Webhook.demands .slack
  | .policy => Policy.demands
  | .repository => Repository.demands
  | .binding => Binding.demands
  | .authSettings => AuthSettings.demands
  | .userAccount => UserAccount.demands
  | .serviceAccount => ServiceAccount.demands
  | .sidecar => Sidecar.demands
  | .sidecarCredentials => SidecarCredentials.demands
  | .listener => Listener.demands

variable {kind : ResourceKind} {s : kind.State} {path : List String}

theorem request_eq_missing (hlacking : path ∈ kind.resource.schema.block.lacking (toValue s))
    (hpath : path ∉ kind.emptied) {op : Operation kind.State}
    (hop : op ∈ kind.resource.create :: kind.resource.update.toList) (base : String) :
    ∃ name, op.request s base = .error (.missingAttribute name) := by
  cases hrequest : op.request s base with
  | ok sent => exact absurd (kind.demands op hop s base sent hrequest hlacking) hpath
  | error failure =>
    have hoperation : op ∈ kind.resource.operations := by
      simp only [Resource.operations, Resource.onObject, List.mem_cons] at hop ⊢
      tauto
    obtain ⟨name, rfl⟩ := kind.sound.needs op hoperation s base failure hrequest
    exact ⟨name, rfl⟩

/--
An object with an open value for a required attribute is neither created nor updated. Nothing is
sent for it, and the failure tells of a missing attribute.
-/
theorem missing_of_lacking (hlacking : path ∈ kind.resource.schema.block.lacking (toValue s))
    (hpath : path ∉ kind.emptied) (k : Connection) (kept : Field Unit) (session : Session) :
    (∃ name, kind.resource.createObject (some k) ⟨.known s, kept⟩ session =
      .error (kind.resource.failed .create (.missingAttribute name)) session) ∧
    ∀ op, kind.resource.update = some op →
      ∃ name, kind.resource.updateObject (some k) ⟨.known s, kept⟩ session =
        .error (kind.resource.failed .update (.missingAttribute name)) session := by
  constructor
  · obtain ⟨name, hrequest⟩ :=
      request_eq_missing hlacking hpath List.mem_cons_self k.client.baseUrl
    have hrun : kind.resource.create.execute k s session =
        ⟨.error (.missingAttribute name), s, session⟩ :=
      Operation.execute_of_request_eq_error hrequest
    have hkind : kind.resource.create.kind = .create := by
      cases kind <;> rfl
    refine ⟨name, ?_⟩
    rw [Resource.createObject_eq_error (by rw [hrun]), hrun, hkind]
  · intro op hop
    obtain ⟨name, hrequest⟩ := request_eq_missing hlacking hpath
      (List.mem_cons_of_mem _ (Option.mem_toList.mpr hop)) k.client.baseUrl
    have hrun : op.execute k s session = ⟨.error (.missingAttribute name), s, session⟩ :=
      Operation.execute_of_request_eq_error hrequest
    have hkind : op.kind = .update := by
      cases kind <;> cases hop <;> rfl
    refine ⟨name, ?_⟩
    rw [Resource.updateObject_eq_error hop (by rw [hrun]), hrun, hkind]

end ResourceKind

namespace Binding

/-- A binding to two listeners, of which the second is not known yet. -/
def State.undecided : State :=
  ⟨.unknown, .known "s1", .known "r1", .unknown, .known true,
    .known [⟨.known "l1", .known 0⟩, ⟨.unknown, .known 1⟩]⟩

/-- The binding is not created before the listener is known. -/
theorem missing_of_undecided :
    let k : Connection := ⟨.of "http://cp" "a" "b", fun _ _ => .complete 201 []⟩
    schema.block.lacking (toValue State.undecided) = [["listener_binding", "listener_id"]] ∧
    ∃ name, resource.createObject (some k) ⟨.known .undecided, .null⟩ {} =
      .error (resource.failed .create (.missingAttribute name)) {} := by
  intro k
  have hlacking : schema.block.lacking (toValue State.undecided) =
      [["listener_binding", "listener_id"]] := rfl
  have hmem : ["listener_binding", "listener_id"] ∈
      ResourceKind.binding.resource.schema.block.lacking
        (toValue (α := ResourceKind.binding.State) .undecided) := by
    change _ ∈ schema.block.lacking (toValue State.undecided)
    rw [hlacking]
    exact List.mem_singleton_self _
  exact ⟨hlacking, (ResourceKind.missing_of_lacking hmem List.not_mem_nil k .null {}).1⟩

end Binding

namespace ServiceAccount

/-- Open permissions are sent as none. -/
theorem body_of_open {s : State} {name : String} (hname : s.displayName = .known name)
    (hopen : ¬ s.permissionIds.isKnown) :
    body s = .ok (.obj [("displayName", .str name), ("permissionIds", .arr [])]) := by
  obtain ⟨id, displayName, permissionIds, clientId, clientSecret⟩ := s
  obtain rfl : displayName = .known name := hname
  cases permissionIds with
  | null | unknown => rfl
  | known ids => exact absurd rfl hopen

end ServiceAccount

namespace Listener

/-- Open repository types are sent as none. -/
theorem body_of_open {s : State} {address : AddressState} {port : Int64}
    (haddress : s.address = .known address) (hport : address.port = .known port)
    (hopen : ¬ s.repoTypes.isKnown) :
    body s = .ok (.obj [("listener", toJson ⟨"", [], ⟨address.host.text, port⟩⟩)]) := by
  obtain ⟨id, sidecarId, listenerId, repoTypes, _⟩ := s
  obtain ⟨host, _⟩ := address
  obtain rfl := haddress
  obtain rfl := hport
  cases repoTypes with
  | null | unknown => rfl
  | known types => exact absurd rfl hopen

end Listener

/-- An account whose permissions are not known yet. -/
def ServiceAccount.State.undecided : ServiceAccount.State :=
  ⟨.unknown, .known "ci", .unknown, .unknown, .unknown⟩

/-- A listener whose repository types are not known yet. -/
def Listener.State.undecided : Listener.State :=
  ⟨.unknown, .known "s1", .unknown, .unknown, .known ⟨.null, .known 3306⟩⟩

set_option maxRecDepth 20000 in
/-- Both are created, and what is sent for them holds an empty list for what is not known. -/
theorem undecided_lists_sent_empty :
    let k : Connection := ⟨.of "http://cp" "a" "b", fun _ _ => .complete 201 []⟩
    ServiceAccount.schema.block.lacking (toValue ServiceAccount.State.undecided) =
      [["permission_ids"]] ∧
    Listener.schema.block.lacking (toValue Listener.State.undecided) = [["repo_types"]] ∧
    ServiceAccount.resource.createObject (some k) ⟨.known .undecided, .null⟩
        { token := some ⟨"t", none⟩ } =
      .ok ⟨.known .undecided, .null⟩
        ⟨[⟨.post, "/v1/users/serviceAccounts", some "Bearer t",
          .json (.obj [("displayName", .str "ci"), ("permissionIds", .arr [])])⟩],
          some ⟨"t", none⟩⟩ ∧
    Listener.resource.createObject (some k) ⟨.known .undecided, .null⟩
        { token := some ⟨"t", none⟩ } =
      .ok ⟨.known .undecided, .null⟩
        ⟨[⟨.post, "/v1/sidecars/s1/listeners", some "Bearer t",
          .json (.obj [("listener", .obj [("repoTypes", .arr []),
            ("address", .obj [("port", .int 3306)])])])⟩], some ⟨"t", none⟩⟩ := by
  intro k
  refine ⟨rfl, rfl, ?_, ?_⟩
  · cbv
  · cbv

end ControlPlane
