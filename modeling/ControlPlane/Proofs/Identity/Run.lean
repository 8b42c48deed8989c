import ControlPlane.Proofs.Identity.Kinds

/-!
Objects keep their identity for life. Whatever the control plane answers, the operations on an
object address the one that was created or imported, apart from credentials that a reply renames.
-/
namespace ControlPlane

namespace Resource
variable {S : Type}

/-- The states that an object starts with. A blank reply to its creation would not tell its ID. -/
inductive Begins (r : Resource S) (s : S) : Prop
  | created {config : Field S} {k : Connection} {kept : Field Unit} {session session' : Session}
      {status : Http.Status} {body : List UInt8}
      (run : r.createObject (some k) (r.planCreate config) session = .ok ⟨.known s, kept⟩ session')
      (reply : k.lastReply? session' = some (.complete status body))
      (told : ¬ body.all Text.isBlankByte)
  | imported {id : String} {kept : Field Unit} (run : r.importObject id = .ok ⟨.known s, kept⟩)

/-- The steps that an object stays through. An update is proposed with the computed attributes that
the state has, and without a reason to replace the object. -/
inductive Next [DecidableEq S] (r : Resource S) (computed : S → List (Field String)) (s s' : S) :
    Prop
  | read {k? : Option Connection} {kept kept' : Field Unit} {session session' : Session}
      (run : r.readObject k? ⟨.known s, kept⟩ session = .ok ⟨.known s', kept'⟩ session')
  | update {k? : Option Connection} {proposed : S} {kept kept' : Field Unit}
      {session session' : Session} (carried : computed proposed = computed s)
      (inPlace : (r.planUpdate (.known s) (.known proposed) kept).2 = [])
      (run : r.updateObject k? (r.planUpdate (.known s) (.known proposed) kept).1 session =
        .ok ⟨.known s', kept'⟩ session')

theorem replaceTriggers_of_inPlace [DecidableEq S] {r : Resource S} {prior proposed : S}
    {kept : Field Unit} (h : (r.planUpdate (.known prior) (.known proposed) kept).2 = []) :
    r.replaceTriggers prior (r.applyDefaults proposed) = [] := by
  simp only [planUpdate, triggers] at h
  split at h
  · assumption
  · exact h

end Resource

namespace ResourceKind
variable {kind : ResourceKind} {s s' : kind.State}

theorem create_onMissing (kind : ResourceKind) : kind.resource.create.onMissing = .fail := by
  cases kind <;> rfl

theorem update_onMissing (kind : ResourceKind) :
    ∀ op ∈ kind.resource.update, op.onMissing = .fail := by
  cases kind <;> rintro op ⟨⟩ <;> rfl

theorem update_response (kind : ResourceKind) :
    ∀ op ∈ kind.resource.update, op.response = none := by
  cases kind <;> rintro op ⟨⟩ <;> rfl

theorem read_response_isSome (kind : ResourceKind) : kind.resource.read.response.isSome := by
  cases kind <;> rfl

theorem coherent_of_begins (h : kind.resource.Begins s) : kind.identity.Coherent s := by
  cases h with
  | @created config k kept session session' status body run reply told =>
    obtain ⟨k', planned, s₁, hk, hplanned, happlies, hs⟩ :=
      (Resource.createObject_eq_ok_iff kind.create_onMissing).mp run
    obtain rfl := Option.some.inj hk
    obtain rfl := Field.known.inj (Managed.mk.inj hs).1
    obtain ⟨url, payload, text, hurl, -, hsend, habsorb⟩ := happlies
    obtain ⟨status', hlast⟩ := Connection.lastReply?_of_send hsend
    obtain ⟨-, rfl⟩ := Http.Reply.complete.inj (Option.some.inj (reply.symm.trans hlast))
    obtain ⟨j, hw, -⟩ := Operation.Writes.of_absorb told habsorb
    cases config with
    | null | unknown => cases hplanned
    | known config =>
      cases hplanned
      exact kind.identity_lawful.creates hurl hw
  | imported run =>
    unfold Resource.importObject at run
    split at run
    · next himport =>
      cases run
      exact kind.identity_lawful.imports himport
    · cases run

/-- A read keeps the identity, or it takes over the name in the reply. -/
theorem agree_of_read (hs : kind.identity.Coherent s) {k? : Option Connection}
    {kept kept' : Field Unit} {session session' : Session}
    (run : kind.resource.readObject k? ⟨.known s, kept⟩ session = .ok ⟨.known s', kept'⟩ session') :
    kind.identity.Agree s s' ∨ ∃ k status body told name, k? = some k ∧
      k.lastReply? session' = some (.complete status body) ∧ Json.parse? body = some told ∧
      kind.identity.named? told = some name ∧ kind.identity.id s' = .known name ∧
      kind.identity.parts s' = [.known name] := by
  obtain ⟨k, status, body, rfl, hlast, ⟨-, rfl⟩ | ⟨told, hw, hparse⟩⟩ :=
    Resource.exists_reply_of_readObject run
  · exact .inl ⟨rfl, rfl⟩
  · rcases kind.identity_lawful.reads hs hw with hagree | ⟨name, hname, hid, hparts⟩
    · exact .inl hagree
    · exact .inr ⟨k, status, body, told, name, rfl, hlast, hparse kind.read_response_isSome, hname,
        hid, hparts⟩

theorem object_eq_of_updateObject {k? : Option Connection} {planned object : Managed kind.State}
    {session session' : Session}
    (run : kind.resource.updateObject k? planned session = .ok object session') :
    object = planned := by
  obtain ⟨op, k, s, s', hop, -, hs, happlies, rfl⟩ :=
    (Resource.updateObject_eq_ok_iff kind.update_onMissing).mp run
  obtain ⟨url, payload, body, -, -, -, habsorb⟩ := happlies
  rw [Operation.absorb_of_response_eq_none (kind.update_response op hop)] at habsorb
  cases habsorb
  rw [← hs]

theorem agree_of_update {k? : Option Connection} {proposed : kind.State} {kept kept' : Field Unit}
    {session session' : Session}
    (carried : kind.identity.computed proposed = kind.identity.computed s)
    (inPlace : (kind.resource.planUpdate (.known s) (.known proposed) kept).2 = [])
    (run : kind.resource.updateObject k?
      (kind.resource.planUpdate (.known s) (.known proposed) kept).1 session =
        .ok ⟨.known s', kept'⟩ session') : kind.identity.Agree s s' := by
  obtain rfl := Field.known.inj (Managed.mk.inj (object_eq_of_updateObject run)).1
  exact kind.identity_lawful.plans carried (Resource.replaceTriggers_of_inPlace inPlace)

theorem coherent_of_next (hs : kind.identity.Coherent s)
    (h : kind.resource.Next kind.identity.computed s s') : kind.identity.Coherent s' := by
  cases h with
  | read run =>
    rcases agree_of_read hs run with hagree | ⟨_, _, _, _, name, _, _, _, _, hid, hparts⟩
    · exact hs.of_agree hagree
    · exact ⟨[name], hparts, hid⟩
  | update carried inPlace run => exact hs.of_agree (agree_of_update carried inPlace run)

theorem agree_of_next (hkind : kind ≠ .sidecarCredentials) (hs : kind.identity.Coherent s)
    (h : kind.resource.Next kind.identity.computed s s') : kind.identity.Agree s s' := by
  cases h with
  | read run =>
    rcases agree_of_read hs run with hagree | ⟨_, _, _, _, _, _, _, _, hname, -, -⟩
    · exact hagree
    · exact absurd (named?_eq_some hname).1 hkind
  | update carried inPlace run => exact agree_of_update carried inPlace run

theorem url_eq_of_agree (hs : kind.identity.Coherent s) (h : kind.identity.Agree s s')
    (base : String) : ∀ op ∈ kind.resource.onObject, op.url s' base = op.url s base := by
  intro op hop
  obtain ⟨ps, hparts, -⟩ := hs
  rw [kind.identity_lawful.url hparts base op hop,
    kind.identity_lawful.url (h.2.trans hparts) base op hop]

theorem coherent_of_run {s₀ : kind.State} (hbegin : kind.resource.Begins s₀)
    (hrun : Relation.ReflTransGen (kind.resource.Next kind.identity.computed) s₀ s) :
    kind.identity.Coherent s := by
  induction hrun with
  | refl => exact coherent_of_begins hbegin
  | tail _ hnext ih => exact coherent_of_next ih hnext

theorem agree_of_run (hkind : kind ≠ .sidecarCredentials) {s₀ : kind.State}
    (hbegin : kind.resource.Begins s₀)
    (hrun : Relation.ReflTransGen (kind.resource.Next kind.identity.computed) s₀ s) :
    kind.identity.Agree s₀ s := by
  induction hrun with
  | refl => exact ⟨rfl, rfl⟩
  | tail hrun hnext ih =>
    have hagree := agree_of_next hkind (coherent_of_run hbegin hrun) hnext
    exact ⟨hagree.1.trans ih.1, hagree.2.trans ih.2⟩

/--
Along every run the identity of an object is known and coherent, and all operations on it address
one object. It is the object that the run started with, but for the credentials of a sidecar: a
read of these goes over to the object that its reply names, and nothing else moves them.
-/
theorem identity_of_run {s₀ : kind.State} (hbegin : kind.resource.Begins s₀)
    (hrun : Relation.ReflTransGen (kind.resource.Next kind.identity.computed) s₀ s) :
    kind.identity.Coherent s ∧
    (∀ base, ∃ url, ∀ op ∈ kind.resource.onObject, op.url s base = .ok url ∧
      (kind ≠ .sidecarCredentials → op.url s₀ base = .ok url)) ∧
    ∀ s', kind.resource.Next kind.identity.computed s s' →
      (∀ base, ∀ op ∈ kind.resource.onObject, op.url s' base = op.url s base) ∨
      kind = .sidecarCredentials ∧ ∃ k kept session session' status body told info,
        kind.resource.readObject (some k) ⟨.known s, kept⟩ session =
          .ok ⟨.known s', kept⟩ session' ∧
        k.lastReply? session' = some (.complete status body) ∧ Json.parse? body = some told ∧
        SidecarCredentials.Info.ofJson? told = some info ∧
        ∀ base, ∀ op ∈ kind.resource.onObject,
          op.url s' base = .ok (base ++ "/v1/users/sidecarAccounts/" ++ info.clientId) := by
  have hs := coherent_of_run hbegin hrun
  refine ⟨hs, ?_, ?_⟩
  · intro base
    obtain ⟨ps, hparts, -⟩ := hs
    refine ⟨base ++ kind.identity.path ps, fun op hop => ⟨?_, fun hkind => ?_⟩⟩
    · exact kind.identity_lawful.url hparts base op hop
    · have hparts₀ := (agree_of_run hkind hbegin hrun).2.symm.trans hparts
      exact kind.identity_lawful.url hparts₀ base op hop
  · intro s' hnext
    cases hnext with
    | update carried inPlace run =>
      exact .inl fun base => url_eq_of_agree hs (agree_of_update carried inPlace run) base
    | read run =>
      rcases agree_of_read hs run with
        hagree | ⟨k, status, body, told, name, rfl, hlast, hparse, hname, -, hparts⟩
      · exact .inl fun base => url_eq_of_agree hs hagree base
      · obtain ⟨rfl, -⟩ := Resource.readObject_eq_ok_known_iff.mp run
        obtain ⟨rfl, info, hinfo, rfl⟩ := named?_eq_some hname
        refine .inr ⟨rfl, k, _, _, _, status, body, told, info, run, hlast, hparse, hinfo, ?_⟩
        intro base op hop
        have hparts' : SidecarCredentials.identity.parts s' = [info.clientId].map .known := hparts
        rw [String.append_assoc]
        exact SidecarCredentials.identity_lawful.url hparts' base op hop

end ResourceKind

namespace Listener

/-- A listener on a port, as it is configured. -/
def State.configured (port : Int64) : State :=
  ⟨.null, .known "s1", .null, .null, .known ⟨.null, .known port⟩⟩

/-- The listener once the control plane has named it. -/
def State.deployed (port : Int64) : State :=
  ⟨.known "s1/l1", .known "s1", .known "l1", .null, .known ⟨.null, .known port⟩⟩

/-- A control plane that gives every listener one name. -/
def deployment : Connection where
  client := .of "http://cp" "a" "b"
  server _ _ := .complete 200 (Text.utf8 "\x7b\"listenerId\":\"l1\"\x7d".toList)

set_option maxRecDepth 20000 in
/-- A listener is created on a port and moved to another. -/
theorem identity_of_deployed :
    ResourceKind.listener.resource.Begins (State.deployed 80) ∧
    Relation.ReflTransGen
      (ResourceKind.listener.resource.Next ResourceKind.listener.identity.computed)
      (State.deployed 80) (State.deployed 81) ∧
    ResourceKind.listener.identity.Coherent (State.deployed 81) ∧
    ∃ url, ∀ op ∈ resource.onObject, op.url (.deployed 81) "http://cp" = .ok url ∧
      op.url (.deployed 80) "http://cp" = .ok url := by
  have hcreate : resource.createObject (some deployment)
      (resource.planCreate (.known (.configured 80))) { token := some ⟨"t", none⟩ } =
        .ok ⟨.known (.deployed 80), .null⟩
          { log := [⟨.post, "/v1/sidecars/s1/listeners", some "Bearer t",
              .json (.obj [("listener", .obj [("repoTypes", .arr []),
                ("address", .obj [("port", .int 80)])])])⟩]
            token := some ⟨"t", none⟩ } := by
    cbv
  have hupdate : ∃ session, resource.updateObject (some deployment)
      (resource.planUpdate (.known (.deployed 80)) (.known (.deployed 81)) .null).1
        { token := some ⟨"t", none⟩ } = .ok ⟨.known (.deployed 81), .null⟩ session :=
    ⟨_, rfl⟩
  obtain ⟨session, hupdate⟩ := hupdate
  have hbegin : ResourceKind.listener.resource.Begins (State.deployed 80) :=
    .created hcreate rfl (by decide)
  have hrun : Relation.ReflTransGen
      (ResourceKind.listener.resource.Next ResourceKind.listener.identity.computed)
      (State.deployed 80) (State.deployed 81) := by
    refine .single (.update ?_ ?_ hupdate) <;> rfl
  obtain ⟨hcoherent, hurl, -⟩ := ResourceKind.identity_of_run hbegin hrun
  obtain ⟨url, hurl⟩ := hurl "http://cp"
  exact ⟨hbegin, hrun, hcoherent, url, fun op hop => ⟨(hurl op hop).1, (hurl op hop).2 (by decide)⟩⟩

end Listener
end ControlPlane
