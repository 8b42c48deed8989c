import ControlPlane.Proofs.Attribute
import ControlPlane.Proofs.Plan

/-!
What is known of an object once it is created. A reply that tells of the object completes its state.
A blank reply is taken for a success as well, and leaves a state whose object cannot be addressed.
-/
namespace ControlPlane
open Exchange (toValue)

namespace Value

/-- A value without anything unknown in it. -/
inductive Complete : Value → Prop
  | null : Complete .null
  | bool (b : Bool) : Complete (.bool b)
  | number (n : Int) : Complete (.number n)
  | text (s : String) : Complete (.text s)
  | list {vs : List Value} (h : ∀ v ∈ vs, Complete v) : Complete (.list vs)
  | object {members : List (String × Value)} (h : ∀ m ∈ members, Complete m.2) :
    Complete (.object members)

@[simp] theorem not_complete_unknown : ¬ unknown.Complete := by
  intro h
  cases h

@[simp] theorem complete_list_iff {vs : List Value} :
    (list vs).Complete ↔ ∀ v ∈ vs, v.Complete := by
  constructor
  · intro h
    cases h with
    | list h => exact h
  · exact .list

@[simp] theorem complete_object_iff {members : List (String × Value)} :
    (object members).Complete ↔ ∀ m ∈ members, m.2.Complete := by
  constructor
  · intro h
    cases h with
    | object h => exact h
  · exact .object

theorem Complete.of_object {ms ns : List (String × Value)} (h : (Value.object ms).Complete)
    (hns : (∀ m ∈ ms, m.2.Complete) → ∀ m ∈ ns, m.2.Complete) : (Value.object ns).Complete :=
  complete_object_iff.mpr (hns (complete_object_iff.mp h))

theorem Complete.member {v w : Value} {name : String} (h : v.Complete)
    (hmember : v.member? name = some w) : w.Complete := by
  cases h with
  | object h =>
    obtain ⟨before, after, hmembers, -⟩ := List.lookup_eq_some_iff.mp hmember
    exact h (name, w) (by simp [hmembers])
  | _ => cases hmember

theorem complete_of_opening_eq {names : List String} {ms ns : List (String × Value)}
    (hopening : opening names ns = opening names ms) (hms : ∀ m ∈ ms, m.2.Complete)
    (htold : ∀ m ∈ ns, m.1 ∈ names → m.2.Complete) : ∀ m ∈ ns, m.2.Complete := by
  intro m hm
  by_cases hname : m.1 ∈ names
  · exact htold m hm hname
  · have hopened : m ∈ opening names ms := by
      rw [← hopening]
      exact List.mem_map.mpr ⟨m, hm, if_neg hname⟩
    obtain ⟨m', hm', rfl⟩ := List.mem_map.mp hopened
    split_ifs at hname ⊢ with h
    · exact absurd h hname
    · exact hms m' hm'

end Value

namespace Field
variable {α : Type} [Exchange α]

theorem null_or_known_of_complete {x : Field α} (h : (toValue x).Complete) :
    x = .null ∨ ∃ a, x = .known a := by
  cases x with
  | null => exact .inl rfl
  | unknown => exact absurd h Value.not_complete_unknown
  | known a => exact .inr ⟨a, rfl⟩

theorem complete_of_mem_elems {x : Field (List α)} (h : (toValue x).Complete) {a : α}
    (ha : a ∈ x.elems) : (toValue a).Complete := by
  cases x with
  | null | unknown => cases ha
  | known as => exact Value.complete_list_iff.mp h _ (List.mem_map_of_mem ha)

theorem complete_orDefault {x : Field α} {value : α} (hx : (toValue x).Complete)
    (hvalue : (toValue value).Complete) : (toValue (x.orDefault value)).Complete := by
  cases x with
  | null => exact hvalue
  | unknown | known => exact hx

theorem complete_map_map {f : α → α} (hf : ∀ a, (toValue a).Complete → (toValue (f a)).Complete)
    {x : Field (List α)} (hx : (toValue x).Complete) :
    (toValue (x.map (·.map f))).Complete := by
  cases x with
  | null => exact hx
  | unknown => exact hx
  | known as =>
    have has := Value.complete_list_iff.mp hx
    refine Value.complete_list_iff.mpr ?_
    simp only [List.forall_mem_map] at has ⊢
    exact fun a ha => hf a (has a ha)

end Field

namespace DataLabel

theorem RuleState.complete_applyDefaults (r : RuleState) (h : (toValue r).Complete) :
    (toValue r.applyDefaults).Complete := by
  refine Value.Complete.of_object h fun h => ?_
  simp only [List.forall_mem_cons] at h ⊢
  exact ⟨h.1, h.2.1, Field.complete_orDefault h.2.2.1 (.text _), h.2.2.2⟩

end DataLabel

namespace Binding

theorem ReferenceState.complete_applyDefaults (r : ReferenceState) (h : (toValue r).Complete) :
    (toValue r.applyDefaults).Complete := by
  refine Value.Complete.of_object h fun h => ?_
  simp only [List.forall_mem_cons] at h ⊢
  exact ⟨h.1, Field.complete_orDefault h.2.1 (.number _), h.2.2⟩

end Binding

namespace ResourceKind
variable {kind : ResourceKind} {c s : kind.State} {url : String} {reply : List UInt8} {j : Json}
  {k? : Option Connection} {session session' : Session}

theorem complete_applyDefaults (h : (toValue s).Complete) :
    (toValue (kind.resource.applyDefaults s)).Complete := by
  cases kind with
  | dataLabel =>
    refine Value.Complete.of_object h fun h => ?_
    simp only [List.forall_mem_cons] at h ⊢
    obtain ⟨hid, hname, hdescription, htags, hrule, hrest⟩ := h
    exact ⟨hid, hname, hdescription, htags,
      Field.complete_map_map DataLabel.RuleState.complete_applyDefaults hrule, hrest⟩
  | logging =>
    refine Value.Complete.of_object h fun h => ?_
    simp only [List.forall_mem_cons] at h ⊢
    obtain ⟨hid, hname, haudit, hrest⟩ := h
    exact ⟨hid, hname, Field.complete_orDefault haudit (.bool _), hrest⟩
  | policy =>
    refine Value.Complete.of_object h fun h => ?_
    simp only [List.forall_mem_cons] at h ⊢
    obtain ⟨hid, hname, hdescription, henabled, hrest⟩ := h
    exact ⟨hid, hname, hdescription, Field.complete_orDefault henabled (.bool _), hrest⟩
  | binding =>
    refine Value.Complete.of_object h fun h => ?_
    simp only [List.forall_mem_cons] at h ⊢
    obtain ⟨hid, hsidecar, hrepository, hbinding, henabled, hreferences, hrest⟩ := h
    exact ⟨hid, hsidecar, hrepository, hbinding, Field.complete_orDefault henabled (.bool _),
      Field.complete_map_map Binding.ReferenceState.complete_applyDefaults hreferences, hrest⟩
  | authSettings =>
    refine Value.Complete.of_object h fun h => ?_
    simp only [List.forall_mem_cons] at h ⊢
    obtain ⟨hid, hrepository, hallow, hclient, hrepo, htype, hrest⟩ := h
    exact ⟨hid, hrepository, Field.complete_orDefault hallow (.bool _),
      Field.complete_orDefault hclient (.text _), Field.complete_orDefault hrepo (.text _),
      Field.complete_orDefault htype (.text _), hrest⟩
  | _ => exact h

theorem isKnown_of_writes {base : String}
    (hurl : kind.resource.create.url (kind.resource.markComputed (kind.resource.applyDefaults c))
      base = .ok url)
    (h : kind.resource.create.Writes j
      (kind.resource.markComputed (kind.resource.applyDefaults c)) s) :
    ∀ x ∈ kind.identity.computed s, x.isKnown := by
  obtain ⟨ps, hparts, hid⟩ := kind.identity_lawful.creates hurl h
  intro x hx
  cases kind with
  | serviceAccount | sidecarCredentials =>
    obtain ⟨told, -, rfl⟩ := (Operation.writes_iff_of_response_eq_of rfl).mp h
    obtain rfl | hx := List.mem_cons.mp hx
    · rfl
    · rcases List.mem_pair.mp hx with rfl | rfl <;> rfl
  | binding | userAccount | listener =>
    obtain ⟨a, b, rfl, -, hb⟩ := Identity.pair_eq_map_known.mp hparts
    rcases List.mem_pair.mp hx with rfl | rfl
    · rw [Field.isKnown_iff]
      exact ⟨_, hid⟩
    · rw [Field.isKnown_iff]
      exact ⟨_, hb⟩
  | _ =>
    obtain rfl := List.mem_singleton.mp hx
    rw [Field.isKnown_iff]
    exact ⟨_, hid⟩

theorem exists_computed_of_mem_opened {members : List (String × Value)}
    (hs : toValue s = .object members) :
    ∀ m ∈ members, m.1 ∈ kind.opened → ∃ x ∈ kind.identity.computed s, m.2 = toValue x := by
  cases kind with
  | dataLabel | authSettings =>
    intro _ _ h
    cases h
  | _ =>
    obtain rfl := Value.object.inj hs
    simp [opened, identity, Identity.own, Identity.composed, Datadog.identity, Logging.identity,
      Webhook.identity, Policy.identity, Repository.identity, Binding.identity,
      UserAccount.identity, ServiceAccount.identity, Sidecar.identity,
      SidecarCredentials.identity, Listener.identity]

theorem complete_of_markComputed_eq (hopens : kind.resource.Opens kind.opened)
    (hmarked : kind.resource.markComputed s = kind.resource.markComputed c)
    (hknown : ∀ x ∈ kind.identity.computed s, x.isKnown) (hc : (toValue c).Complete) :
    (toValue s).Complete := by
  obtain ⟨ms, hms, hcOpened⟩ := hopens c
  obtain ⟨ns, hns, hsOpened⟩ := hopens s
  rw [hms, Value.complete_object_iff] at hc
  rw [hns, Value.complete_object_iff]
  have hopening : Value.opening kind.opened ns = Value.opening kind.opened ms := by
    rw [hmarked, hcOpened] at hsOpened
    exact (Value.object.inj hsOpened).symm
  refine Value.complete_of_opening_eq hopening hc ?_
  intro m hm hname
  obtain ⟨x, hx, hm⟩ := exists_computed_of_mem_opened hns m hm hname
  obtain ⟨told, rfl⟩ := Field.isKnown_iff.mp (hknown x hx)
  rw [hm]
  exact .text told

theorem complete_of_writes {base : String} (hc : (toValue c).Complete)
    (hurl : kind.resource.create.url (kind.resource.markComputed (kind.resource.applyDefaults c))
      base = .ok url)
    (h : kind.resource.create.Writes j
      (kind.resource.markComputed (kind.resource.applyDefaults c)) s) :
    (toValue s).Complete := by
  have hdefaults := complete_applyDefaults hc
  have hknown := isKnown_of_writes hurl h
  have hmarked := markComputed_of_writes h
  cases kind with
  | dataLabel | authSettings =>
    obtain rfl := (Operation.writes_iff_of_response_eq_none rfl).mp h
    refine Value.Complete.of_object hdefaults fun hmembers => ?_
    simp only [List.forall_mem_cons] at hmembers ⊢
    exact ⟨hmembers.2.1, hmembers.2⟩
  | _ => exact complete_of_markComputed_eq (opens nofun nofun) hmarked hknown hdefaults

/-- A plan leaves the ID of a new object to the reply that tells it. -/
theorem not_complete_markComputed (h : kind.resource.create.response.isSome) (c : kind.State) :
    ¬ (toValue (kind.resource.markComputed c)).Complete := by
  have hid : "id" ∈ kind.opened := by
    cases kind with
    | dataLabel | authSettings => cases h
    | _ => decide
  intro hcomplete
  exact Value.not_complete_unknown (hcomplete.member (leavesOpen_of_mem_opened hid c))

/-- Nothing is known of the object, so that no operation can address it. -/
theorem url_markComputed_ne_ok (h : kind.resource.create.response.isSome) (c : kind.State)
    (base url : String) :
    ∀ op ∈ kind.resource.onObject, op.url (kind.resource.markComputed c) base ≠ .ok url := by
  cases kind with
  | dataLabel | authSettings => cases h
  | _ =>
    simp [Resource.onObject, resource, bind_eq_ok_iff, Field.require_eq_ok_iff,
      Datadog.resource, Datadog.objectUrl, Logging.resource, Logging.objectUrl,
      Webhook.resource, Webhook.objectUrl, Policy.resource, Policy.objectUrl,
      Repository.resource, Repository.objectUrl, Binding.resource, Binding.objectUrl,
      UserAccount.resource, UserAccount.objectUrl, ServiceAccount.resource,
      ServiceAccount.objectUrl, Sidecar.resource, Sidecar.objectUrl,
      SidecarCredentials.resource, SidecarCredentials.objectUrl, Listener.resource,
      Listener.objectUrl]

theorem computed_markComputed (h : kind.resource.create.response.isSome) (c : kind.State) :
    ∀ x ∈ kind.identity.computed (kind.resource.markComputed c), x = .unknown := by
  intro x hx
  cases kind with
  | dataLabel | authSettings => cases h
  | binding | userAccount | listener => rcases List.mem_pair.mp hx with rfl | rfl <;> rfl
  | serviceAccount | sidecarCredentials =>
    obtain rfl | hx := List.mem_cons.mp hx
    · rfl
    · rcases List.mem_pair.mp hx with rfl | rfl <;> rfl
  | _ =>
    obtain rfl := List.mem_singleton.mp hx
    rfl

/-- The reply to a creation tells of the object where it has to. Any blank reply tells nothing. -/
def Told (kind : ResourceKind) (reply : List UInt8) : Prop :=
  kind.resource.create.response.isSome → ¬ reply.all Text.isBlankByte

theorem exists_writes_of_told (htold : kind.Told reply)
    (h : kind.resource.create.absorb url reply c = .ok s) :
    ∃ j, kind.resource.create.Writes j c s := by
  cases hresponse : kind.resource.create.response with
  | none =>
    rw [Operation.absorb_of_response_eq_none hresponse] at h
    obtain rfl := Except.ok.inj h
    exact ⟨.null, (Operation.writes_iff_of_response_eq_none hresponse).mpr rfl⟩
  | some response =>
    obtain ⟨j, hw, -⟩ := Operation.Writes.of_absorb (htold (by rw [hresponse]; rfl)) h
    exact ⟨j, hw⟩

/-- The state of an object that is wholly known and can be addressed. -/
structure Established (kind : ResourceKind) (s : kind.State) : Prop where
  complete : (toValue s).Complete
  known : ∀ x ∈ kind.identity.computed s, x.isKnown
  coherent : kind.identity.Coherent s
  addressed (base : String) : ∀ op ∈ kind.resource.onObject, ∃ url, op.url s base = .ok url

/-- The state of an object that exists and cannot be addressed. -/
structure Lost (kind : ResourceKind) (s : kind.State) : Prop where
  incomplete : ¬ (toValue s).Complete
  unknown : ∀ x ∈ kind.identity.computed s, x = .unknown
  unaddressed (base url : String) : ∀ op ∈ kind.resource.onObject, op.url s base ≠ .ok url

/--
An object that is created from a complete configuration is established by a reply that tells of it.
A creation succeeds with a blank reply as well, and the object is lost then.
-/
theorem established_or_lost_of_create (kind : ResourceKind) {config : Field kind.State}
    {object : Managed kind.State} (hconfig : (toValue config).Complete)
    (hcreate : kind.resource.createObject k? (kind.resource.planCreate config) session =
      .ok object session') :
    ∃ k s status reply, k? = some k ∧ object = ⟨.known s, .null⟩ ∧
      k.lastReply? session' = some (.complete status reply) ∧
      (kind.Told reply → kind.Established s) ∧ (¬ kind.Told reply → kind.Lost s) := by
  obtain ⟨k, c, s, url, status, reply, rfl, rfl, rfl, hurl, hlast, habsorb⟩ :=
    exists_of_createObject hcreate
  refine ⟨k, s, status, reply, rfl, rfl, hlast, ?_, ?_⟩
  · intro htold
    obtain ⟨j, hw⟩ := exists_writes_of_told htold habsorb
    have hcoherent := kind.identity_lawful.creates hurl hw
    refine ⟨complete_of_writes hconfig hurl hw, isKnown_of_writes hurl hw, hcoherent,
      fun base op hop => ?_⟩
    obtain ⟨ps, hparts, -⟩ := hcoherent
    exact ⟨_, kind.identity_lawful.url hparts base op hop⟩
  · intro htold
    obtain ⟨hresponse, hblank⟩ := Classical.not_imp.mp htold
    rw [Operation.absorb_of_blank (not_not.mp hblank)] at habsorb
    obtain rfl := Except.ok.inj habsorb
    exact ⟨not_complete_markComputed hresponse _, computed_markComputed hresponse _,
      url_markComputed_ne_ok hresponse _⟩

end ResourceKind

namespace Repository

/-- A database on one host, as it is configured. -/
def State.single : State where
  id := .null
  type := .known "mysql"
  name := .known "r"
  labels := .null
  nodes := .known [⟨.null, .known "h", .known 3306, .null⟩]
  mongo := .null

/-- The database once the control plane has given it an ID, if it has. -/
def State.singleWith (id : Field String) : State := { State.single with id }

/-- A control plane that answers all in one way. -/
def answering (reply : List UInt8) : Connection where
  client := .of "http://cp" "a" "b"
  server _ _ := .complete 201 reply

theorem complete_single : (toValue State.single).Complete := by
  have hnode : (toValue (⟨.null, .known "h", .known 3306, .null⟩ : NodeState)).Complete := by
    refine Value.complete_object_iff.mpr ?_
    simp only [List.forall_mem_cons]
    exact ⟨.null, .text _, .number _, .null, by simp⟩
  refine Value.complete_object_iff.mpr ?_
  simp only [List.forall_mem_cons]
  exact ⟨.null, .text _, .text _, .null, .list (by simpa using hnode), .null, by simp⟩

set_option maxRecDepth 20000 in
/-- The database is established by a reply that tells its ID. -/
theorem established_of_told : ∃ session,
    resource.createObject (some (answering (Text.utf8 "\x7b\"id\":\"r1\"\x7d".toList)))
        (resource.planCreate (.known .single)) { token := some ⟨"t", none⟩ } =
      .ok ⟨.known (.singleWith (.known "r1")), .null⟩ session ∧
    ResourceKind.repository.Established (.singleWith (.known "r1")) := by
  have hcreate : resource.createObject
      (some (answering (Text.utf8 "\x7b\"id\":\"r1\"\x7d".toList)))
        (resource.planCreate (.known .single)) { token := some ⟨"t", none⟩ } =
      .ok ⟨.known (.singleWith (.known "r1")), .null⟩
        { log := [⟨.post, "/v1/repos", some "Bearer t", .json (.obj [("name", .str "r"),
            ("type", .str "mysql"), ("labels", .arr []), ("repoNodes", .arr [.obj
              [("host", .str "h"), ("port", .int 3306), ("dynamic", .bool false)]])])⟩]
          token := some ⟨"t", none⟩ } := by
    cbv
  have hconfig : (toValue (Field.known State.single)).Complete := complete_single
  obtain ⟨k, s, status, reply, hk, hs, hlast, htold, -⟩ :=
    ResourceKind.established_or_lost_of_create .repository hconfig hcreate
  obtain rfl := Option.some.inj hk
  obtain rfl := Field.known.inj (Managed.mk.inj hs).1
  obtain ⟨-, rfl⟩ := Http.Reply.complete.inj (Option.some.inj hlast)
  exact ⟨_, hcreate, htold fun _ => by decide⟩

set_option maxRecDepth 20000 in
/-- A blank reply leaves the ID unknown, and the database cannot be read, changed or removed. -/
theorem lost_of_blank :
    (toValue State.single).Complete ∧ ∃ session,
      resource.createObject (some (answering [])) (resource.planCreate (.known .single))
          { token := some ⟨"t", none⟩ } =
        .ok ⟨.known (.singleWith .unknown), .null⟩ session ∧
      ¬ (toValue (State.singleWith .unknown)).Complete ∧
      ∀ base, ∀ op ∈ resource.onObject,
        op.url (.singleWith .unknown) base = .error (.missingAttribute "id") := by
  refine ⟨complete_single, _, rfl, ?_, ?_⟩
  · intro h
    have hid : (toValue (State.singleWith .unknown)).member? "id" = some .unknown := rfl
    exact Value.not_complete_unknown (h.member hid)
  · intro base op hop
    rcases List.mem_cons.mp hop with rfl | hop
    · rfl
    · rcases List.mem_pair.mp hop with rfl | rfl <;> rfl

end Repository
end ControlPlane
