import ControlPlane.Proofs.Identity.Run

/-!
What is planned for an object and what comes of it. A plan leaves the attributes open that only the
control plane can tell. A reply fills these in and touches no others.
-/
namespace ControlPlane
open Exchange (toValue)

/-- A member of an object, which is an attribute or a block with all that is in it. -/
def Value.member? (v : Value) (name : String) : Option Value :=
  match v with
  | .object members => members.lookup name
  | _ => none

/-- The members of some names are made unknown. -/
def Value.opening (names : List String) (members : List (String × Value)) : List (String × Value) :=
  members.map fun m => if m.1 ∈ names then (m.1, .unknown) else m

theorem Value.lookup_opening {names : List String} {name : String} (h : name ∉ names)
    (members : List (String × Value)) :
    (opening names members).lookup name = members.lookup name := by
  induction members with
  | nil => rfl
  | cons m members ih =>
    have hkey : (if m.1 ∈ names then (m.1, .unknown) else m : String × Value).1 = m.1 := by
      split_ifs <;> rfl
    simp only [opening, List.map_cons] at ih ⊢
    rw [List.lookup_cons, List.lookup_cons, ih, hkey]
    by_cases hname : name = m.1
    · rw [if_neg (hname ▸ h)]
    · rw [beq_false_of_ne hname]

namespace Resource
variable {S : Type} [Exchange S] (r : Resource S)

/-- Every plan of a new object leaves the attribute to the control plane. -/
def LeavesOpen (name : String) : Prop :=
  ∀ s, (toValue (r.markComputed s)).member? name = some .unknown

/-- A plan opens the attributes of the names, and changes nothing else. -/
def Opens (names : List String) : Prop :=
  ∀ s, ∃ members, toValue s = .object members ∧
    toValue (r.markComputed s) = .object (Value.opening names members)

theorem Opens.member?_eq {r : Resource S} {names : List String} (h : r.Opens names) {name : String}
    (hname : name ∉ names) (s : S) :
    (toValue (r.markComputed s)).member? name = (toValue s).member? name := by
  obtain ⟨members, hs, hmarked⟩ := h s
  rw [hs, hmarked]
  exact Value.lookup_opening hname members

end Resource

namespace ResourceKind

/-- The attributes that a plan leaves open. The name of what is put in its place is planned. -/
def opened : ResourceKind → List String
  | .dataLabel | .authSettings => []
  | .binding => ["id", "binding_id"]
  | .userAccount => ["id", "user_account_id"]
  | .listener => ["id", "listener_id"]
  | .serviceAccount | .sidecarCredentials => ["id", "client_id", "client_secret"]
  | _ => ["id"]

theorem leavesOpen_of_mem_opened {kind : ResourceKind} {name : String} (h : name ∈ kind.opened) :
    kind.resource.LeavesOpen name := by
  cases kind <;> simp only [opened, List.mem_cons, List.not_mem_nil, or_false] at h <;>
    rcases h with rfl | rfl | rfl <;> exact fun _ => rfl

theorem opens {kind : ResourceKind} (hlabel : kind ≠ .dataLabel)
    (hsettings : kind ≠ .authSettings) : kind.resource.Opens kind.opened := by
  intro s
  cases kind with
  | dataLabel => exact absurd rfl hlabel
  | authSettings => exact absurd rfl hsettings
  | _ => exact ⟨_, rfl, rfl⟩

variable {kind : ResourceKind} {c s : kind.State} {url : String} {reply : List UInt8} {j : Json}
  {k? : Option Connection} {session session' : Session}

theorem markComputed_markComputed (kind : ResourceKind) (s : kind.State) :
    kind.resource.markComputed (kind.resource.markComputed s) = kind.resource.markComputed s := by
  cases kind <;> rfl

theorem markComputed_of_writes
    (h : kind.resource.create.Writes j (kind.resource.markComputed c) s) :
    kind.resource.markComputed s = kind.resource.markComputed c := by
  cases kind with
  | dataLabel | authSettings =>
    obtain rfl := (Operation.writes_iff_of_response_eq_none rfl).mp h
    rfl
  | binding =>
    obtain ⟨id, -, h⟩ := (Operation.writes_iff_of_response_eq_map rfl).mp h
    obtain ⟨a, -, rfl⟩ := Binding.exists_of_created h
    rfl
  | userAccount =>
    obtain ⟨id, -, h⟩ := (Operation.writes_iff_of_response_eq_map rfl).mp h
    obtain ⟨a, -, rfl⟩ := UserAccount.exists_of_created h
    rfl
  | listener =>
    obtain ⟨id, -, h⟩ := (Operation.writes_iff_of_response_eq_map rfl).mp h
    obtain ⟨a, -, rfl⟩ := Listener.exists_of_created h
    rfl
  | _ =>
    obtain ⟨told, -, rfl⟩ := (Operation.writes_iff_of_response_eq_of rfl).mp h
    rfl

theorem markComputed_of_absorb
    (h : kind.resource.create.absorb url reply (kind.resource.markComputed c) = .ok s) :
    kind.resource.markComputed s = kind.resource.markComputed c := by
  by_cases hblank : reply.all Text.isBlankByte
  · rw [Operation.absorb_of_blank hblank] at h
    cases h
    exact kind.markComputed_markComputed c
  · obtain ⟨j, hw, -⟩ := Operation.Writes.of_absorb hblank h
    exact markComputed_of_writes hw

theorem exists_of_createObject {config : Field kind.State} {object : Managed kind.State}
    (h : kind.resource.createObject k? (kind.resource.planCreate config) session =
      .ok object session') :
    ∃ k c s url status reply, k? = some k ∧ config = .known c ∧ object = ⟨.known s, .null⟩ ∧
      kind.resource.create.url (kind.resource.markComputed (kind.resource.applyDefaults c))
        k.client.baseUrl = .ok url ∧
      k.lastReply? session' = some (.complete status reply) ∧
      kind.resource.create.absorb url reply
        (kind.resource.markComputed (kind.resource.applyDefaults c)) = .ok s := by
  obtain ⟨k, planned, s, rfl, hplanned, happlies, rfl⟩ :=
    (Resource.createObject_eq_ok_iff kind.create_onMissing).mp h
  obtain ⟨url, payload, reply, hurl, -, hsend, habsorb⟩ := happlies
  obtain ⟨status, hlast⟩ := Connection.lastReply?_of_send hsend
  cases config with
  | null | unknown => cases hplanned
  | known c =>
    cases hplanned
    exact ⟨k, c, s, url, status, reply, rfl, rfl, rfl, hurl, hlast, habsorb⟩

/--
What is applied is what was planned. An object is created with the state that was planned for it,
but for the attributes that the plan left open, and an update leaves the planned state as it is.
-/
theorem apply_eq_plan (kind : ResourceKind) (k? : Option Connection) (session session' : Session) :
    (∀ name ∈ kind.opened, kind.resource.LeavesOpen name) ∧
    (∀ config object, kind.resource.createObject k? (kind.resource.planCreate config) session =
        .ok object session' →
      ∃ planned s, kind.resource.planCreate config = ⟨.known planned, .null⟩ ∧
        object = ⟨.known s, .null⟩ ∧ kind.resource.markComputed s = planned ∧
        (∀ name ∉ kind.opened, (toValue s).member? name = (toValue planned).member? name) ∧
        (kind = .dataLabel ∨ kind = .authSettings → s = planned)) ∧
    ∀ planned object, kind.resource.updateObject k? planned session = .ok object session' →
      object = planned := by
  refine ⟨fun _ => leavesOpen_of_mem_opened, ?_, ?_⟩
  · intro config object h
    obtain ⟨k, c, s, url, status, reply, -, rfl, rfl, -, -, habsorb⟩ := exists_of_createObject h
    have hmarked := markComputed_of_absorb habsorb
    have hput : kind = .dataLabel ∨ kind = .authSettings →
        s = kind.resource.markComputed (kind.resource.applyDefaults c) := by
      intro hkind
      have hnone : kind.resource.create.response = none := by
        rcases hkind with rfl | rfl <;> rfl
      rw [Operation.absorb_of_response_eq_none hnone] at habsorb
      exact (Except.ok.inj habsorb).symm
    refine ⟨kind.resource.markComputed (kind.resource.applyDefaults c), s, rfl, rfl, hmarked, ?_,
      hput⟩
    intro name hname
    by_cases hkind : kind = .dataLabel ∨ kind = .authSettings
    · rw [hput hkind]
    · rw [not_or] at hkind
      rw [← hmarked, (opens hkind.1 hkind.2).member?_eq hname s]
  · intro planned object h
    obtain ⟨op, k, s, s', hop, -, hs, happlies, rfl⟩ :=
      (Resource.updateObject_eq_ok_iff kind.update_onMissing).mp h
    obtain ⟨url, payload, reply, -, -, -, habsorb⟩ := happlies
    rw [Operation.absorb_of_response_eq_none (kind.update_response op hop)] at habsorb
    cases habsorb
    rw [← hs]

end ResourceKind

namespace Binding

/-- A binding as it is configured, with a flag and a node that are left to their defaults. -/
def State.configured : State :=
  ⟨.null, .known "s1", .known "r1", .null, .null, .known [⟨.known "l1", .null⟩]⟩

/-- The binding once the control plane has named it. -/
def State.named : State :=
  ⟨.known "s1/b1", .known "s1", .known "r1", .known "b1", .known true,
    .known [⟨.known "l1", .known 0⟩]⟩

/-- A control plane that gives every binding one name. -/
def naming : Connection where
  client := .of "http://cp" "a" "b"
  server _ _ := .complete 201 (Text.utf8 "\x7b\"bindingId\":\"b1\"\x7d".toList)

set_option maxRecDepth 20000 in
/-- A binding is created and sent once more as it is. -/
theorem apply_eq_plan_named : ∃ planned session session',
    resource.planCreate (.known .configured) = ⟨.known planned, .null⟩ ∧
    resource.createObject (some naming) (resource.planCreate (.known .configured))
      { token := some ⟨"t", none⟩ } = .ok ⟨.known .named, .null⟩ session ∧
    (toValue State.named).member? "listener_binding" =
      (toValue planned).member? "listener_binding" ∧
    resource.updateObject (some naming) ⟨.known .named, .null⟩ session =
      .ok ⟨.known .named, .null⟩ session' := by
  have hcreate : ∃ log, resource.createObject (some naming)
      (resource.planCreate (.known .configured)) { token := some ⟨"t", none⟩ } =
        .ok ⟨.known .named, .null⟩ ⟨log, some ⟨"t", none⟩⟩ := by
    refine ⟨[⟨.post, "/v1/sidecars/s1/bindings", some "Bearer t", .json (.obj [("binding",
      .obj [("repoId", .str "r1"), ("enabled", .bool true), ("listenerBindings",
        .arr [.obj [("listenerId", .str "l1"), ("nodeIndex", .int 0)]])])])⟩], ?_⟩
    cbv
  obtain ⟨log, hcreate⟩ := hcreate
  have hupdate : ∃ object session', resource.updateObject (some naming)
      ⟨.known .named, .null⟩ ⟨log, some ⟨"t", none⟩⟩ = .ok object session' :=
    ⟨_, _, rfl⟩
  obtain ⟨object, session', hupdate⟩ := hupdate
  obtain ⟨planned, s, hplan, hobject, -, hmembers, -⟩ :=
    (ResourceKind.apply_eq_plan .binding (some naming) _ _).2.1 _ _ hcreate
  obtain rfl := Field.known.inj (Managed.mk.inj hobject).1
  have hsame := (ResourceKind.apply_eq_plan .binding (some naming) _ _).2.2 _ _ hupdate
  rw [hsame] at hupdate
  exact ⟨planned, _, session', hplan, hcreate, hmembers _ (by decide), hupdate⟩

end Binding
end ControlPlane
