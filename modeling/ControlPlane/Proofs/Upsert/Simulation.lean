import ControlPlane.Proofs.Removal
import ControlPlane.Proofs.Upsert.Keeper

/-!
Objects that are put in their place behave as the entries of a store. Whatever is done to them, in
whichever order, each step gives back what the store holds after it, and the control plane holds the
bodies of the states in the store.
-/
namespace ControlPlane

open Upsert (Object Act Store World)

namespace Connection

/-- A call where tokens are granted. What is held only changes by its own request. -/
theorem Grants.exists_answers {k : Connection} {valid : Token → Prop} {tokenTarget : String}
    {session : Session} (hg : k.Grants valid tokenTarget) (hs : session.Keeps valid)
    {url target : String} (ht : Url.target? url [] = some target) (method : Http.Method)
    (payload : Http.Payload) {p : Http.Status → List UInt8 → Prop}
    (hreply : ∀ token log, valid token →
      (∀ t, Http.heldAt t log = Http.heldAt t session.log) →
      ∃ status text, k.server log (authorized token method target payload) =
        .complete status text ∧ p status text) :
    ∃ token status text session',
      k.Answers method url [] payload session status text session' ∧ p status text ∧
      session'.Keeps valid ∧
      ∀ t, Http.heldAt t session'.log =
        (authorized token method target payload).leaves t (Http.heldAt t session.log) := by
  obtain ⟨token, s₁, asked, htoken, hvalid, hkeeps, hlog, hasked⟩ := hg.token_eq_ok hs
  have hheld (t : String) : Http.heldAt t s₁.log = Http.heldAt t session.log := by
    rw [hlog]
    refine Http.heldAt_append_of_post t _ fun r hr => ?_
    rw [hasked r hr]
    rfl
  obtain ⟨status, text, hserver, hp⟩ := hreply token s₁.log hvalid hheld
  refine ⟨token, status, text, _, ⟨token, s₁, target, htoken, hg.sendable token hvalid, ht, hserver,
    rfl⟩, hp, hkeeps, fun t => ?_⟩
  rw [Http.heldAt_append_singleton, hheld]

end Connection

namespace UpsertKind

/-- An operation that puts an object in its place. -/
structure Puts (kind : UpsertKind) (op : Operation kind.State) : Prop where
  method : op.method = .put
  payload (s : kind.State) : op.payload s = (kind.body s).map .json
  response : op.response = none
  url {s : kind.State} {name : String} (h : kind.key s = .known name) (base : String) :
    op.url s base = .ok (base ++ kind.path name)

theorem create_puts (kind : UpsertKind) : kind.Puts kind.resource.create := by
  have hurl {s : kind.State} {name : String} (h : kind.key s = .known name) (base : String) :=
    kind.url_of_key h base kind.resource.read List.mem_cons_self
  cases kind <;> exact ⟨rfl, fun _ => rfl, rfl, hurl⟩

theorem update_puts (kind : UpsertKind) :
    ∃ op, kind.resource.update = some op ∧ kind.Puts op := by
  have hurl {s : kind.State} {name : String} (h : kind.key s = .known name) (base : String) :=
    kind.url_of_key h base kind.resource.read List.mem_cons_self
  cases kind <;> exact ⟨_, rfl, rfl, fun _ => rfl, rfl, hurl⟩

/-- The request for an object that is named, where nothing is put. -/
theorem request_of_key (kind : UpsertKind) {s : kind.State} {name : String}
    (h : kind.key s = .known name) (base : String) {op : Operation kind.State}
    (hop : op ∈ kind.resource.onObject) (hbody : op.body = none) :
    op.request s base = .ok (base ++ kind.path name, .none) :=
  (Operation.request_of_body_eq_none hbody).mpr ⟨kind.url_of_key h base op hop, rfl⟩

theorem read_response (kind : UpsertKind) : kind.resource.read.response.isSome := by
  cases kind <;> rfl

theorem exists_import (kind : UpsertKind) (name : String) :
    ∃ s, kind.resource.importObject name = .ok { state := .known s } ∧
      kind.key s = .known name := by
  cases kind <;> exact ⟨_, rfl, rfl⟩

end UpsertKind

namespace Upsert
variable {k : Connection} {valid : Token → Prop} {tokenTarget : String}
  {scheme authority place : List Char} {session session' : Session} {m : Store} {o : Object}

/-- A session in which the control plane stands for a store. -/
structure Mirrors (k : Connection) (valid : Token → Prop) (session : Session) (m : Store) :
    Prop where
  keeps : session.Keeps valid
  settled (o : Object) (s : o.State) (h : m o = some s) : o.kind.Settled o.name s
  holds : k.Holds session m

/-- The frame of an action: it changes the entry of its object, and what is held for it. -/
theorem Mirrors.set (hm : Mirrors k valid session m)
    (hbase : Url.IsBase k.client.baseUrl scheme authority place) (ho : o.IsPlain) {target : String}
    (ht : Url.target? (k.client.url o.path) [] = some target) {state : Option o.State}
    (hstate : ∀ s ∈ state, o.kind.Settled o.name s) (hkeeps : session'.Keeps valid)
    (hown : Http.heldAt target session'.log = state.bind o.body?)
    (hframe : ∀ t, t ≠ target → Http.heldAt t session'.log = Http.heldAt t session.log) :
    Mirrors k valid session' (m.set o state) where
  keeps := hkeeps
  settled o' s h := by
    by_cases heq : o' = o
    · subst heq
      rw [Store.set, Function.update_self] at h
      exact hstate s h
    · rw [Store.set, Function.update_of_ne heq] at h
      exact hm.settled o' s h
  holds o' t ho' ht' := by
    by_cases heq : o' = o
    · subst heq
      rw [Store.set, Function.update_self, Option.some.inj (ht'.symm.trans ht)]
      exact hown
    · rw [Store.set, Function.update_of_ne heq, hframe t (target_ne hbase ho' ho heq ht' ht)]
      exact hm.holds o' t ho' ht'

/-- Before anything is done, nothing is in the store. -/
theorem mirrors_empty (hs : session.Keeps valid) (hempty : k.Holds session Store.empty) :
    Mirrors k valid session Store.empty where
  keeps := hs
  settled o s h := by cases h
  holds := hempty

/-- Nothing is held elsewhere after a call that leaves the bodies as they are. -/
theorem Mirrors.of_heldAt_eq (hm : Mirrors k valid session m) (hkeeps : session'.Keeps valid)
    (hheld : ∀ t, Http.heldAt t session'.log = Http.heldAt t session.log) :
    Mirrors k valid session' m where
  keeps := hkeeps
  settled := hm.settled
  holds o t ho ht := (hheld t).trans (hm.holds o t ho ht)

theorem Mirrors.exists_current (hm : Mirrors k valid session m) (o : Object) :
    ∃ s, Act.current o.kind.resource o.name (m o) = .ok { state := .known s } ∧
      o.kind.key s = .known o.name ∧ ∀ held ∈ m o, held = s := by
  cases hheld : m o with
  | none =>
    obtain ⟨s, himport, hkey⟩ := o.kind.exists_import o.name
    exact ⟨s, himport, hkey, by simp⟩
  | some s => exact ⟨s, rfl, (hm.settled o s hheld).key, by simp⟩

section
variable (hbase : Url.IsBase k.client.baseUrl scheme authority place)
  (hg : k.Grants valid tokenTarget) (hk : k.KeepsBodies valid)
include hbase hg hk

theorem Mirrors.put (hm : Mirrors k valid session m) (ho : o.IsPlain) {op : Operation o.State}
    (hop : o.kind.Puts op) {s : o.State} (hs : o.kind.Settled o.name s) :
    ∃ session', op.Applies k s session s session' ∧
      Mirrors k valid session' (m.set o (some s)) := by
  have ht := exists_target hbase ho
  obtain ⟨body, hbody, -⟩ := o.kind.writes_of_settled hs
  obtain ⟨token, status, text, session', hanswers, hstatus, hkeeps, hheld⟩ :=
    hg.exists_answers hm.keeps ht .put (.json body)
      fun token log hv _ => hk.put ho ht hv log body
  have hpayload : op.payload s = .ok (.json body) := by
    rw [hop.payload, hbody]
    rfl
  refine ⟨session', ⟨_, _, text, hop.url hs.key _, hpayload, ?_,
    Operation.absorb_of_response_eq_none hop.response⟩, ?_⟩
  · rw [hop.method]
    exact Connection.send_eq_ok_iff_answers.mpr ⟨status, hanswers, hstatus⟩
  · refine hm.set hbase ho ht ?_ hkeeps ?_ fun t hne => ?_
    · intro s' hs'
      obtain rfl := Option.some.inj hs'
      exact hs
    · rw [hheld, Option.bind_some, Object.body?, hbody]
      exact if_pos rfl
    · rw [hheld]
      exact Http.Request.leaves_of_ne hne.symm _

/-- What is held is told as it was put, and leaves the state as it is. -/
theorem Mirrors.read_of_some (hm : Mirrors k valid session m) (ho : o.IsPlain) {s : o.State}
    (hheld : m o = some s) :
    ∃ session', o.kind.resource.read.Applies k s session s session' ∧
      Mirrors k valid session' m := by
  have ht := exists_target hbase ho
  have hs := hm.settled o s hheld
  obtain ⟨body, hbody, hwrites⟩ := o.kind.writes_of_settled hs
  have hput := hm.holds o _ ho ht
  rw [hheld, Option.bind_some, Object.body?, hbody] at hput
  obtain ⟨token, status, text, session', hanswers, ⟨hstatus, told, hparse, hsame⟩, hkeeps,
    hleaves⟩ := hg.exists_answers hm.keeps ht .get .none
      fun token log hv hlog => hk.get ho ht hv hbody ((hlog _).trans hput)
  obtain ⟨hmethod, hnone, -⟩ := o.kind.toResourceKind.read_shape
  obtain ⟨hurl, hpayload⟩ := Operation.request_eq_ok_iff.mp
    (o.kind.request_of_key hs.key k.client.baseUrl List.mem_cons_self hnone)
  refine ⟨session', ⟨_, _, text, hurl, hpayload, ?_, ?_⟩, ?_⟩
  · rw [hmethod]
    exact Connection.send_eq_ok_iff_answers.mpr ⟨status, hanswers, hstatus⟩
  · exact Operation.absorb_of_writes o.kind.read_response hparse (hwrites told hsame)
  · exact hm.of_heldAt_eq hkeeps fun t => (hleaves t).trans (Http.Request.leaves_of_get rfl _ _)

theorem Mirrors.read_of_none (hm : Mirrors k valid session m) (ho : o.IsPlain)
    (hheld : m o = none) {s : o.State} (hkey : o.kind.key s = .known o.name) :
    ∃ session', o.kind.resource.read.execute k s session = ⟨.ok .notFound, s, session'⟩ ∧
      Mirrors k valid session' m := by
  have ht := exists_target hbase ho
  have hgone := hm.holds o _ ho ht
  rw [hheld, Option.bind_none] at hgone
  obtain ⟨token, status, text, session', hanswers, rfl, hkeeps, hleaves⟩ :=
    hg.exists_answers hm.keeps ht .get .none (p := fun status _ => status = .notFound)
      fun token log hv hlog => by
        obtain ⟨text, hserver⟩ := hk.missing ho ht hv ((hlog _).trans hgone) (.inl rfl)
        exact ⟨_, text, hserver, rfl⟩
  obtain ⟨hmethod, hnone, hmissing⟩ := o.kind.toResourceKind.read_shape
  have hrequest := o.kind.request_of_key hkey k.client.baseUrl List.mem_cons_self hnone
  rw [← hmethod] at hanswers
  exact ⟨session', (Operation.execute_eq_notFound_iff hmissing).mpr
    ⟨rfl, _, _, text, hrequest, hanswers⟩,
    hm.of_heldAt_eq hkeeps fun t => (hleaves t).trans (Http.Request.leaves_of_get rfl _ _)⟩

/-- An object is destroyed whether it is there or not. -/
theorem Mirrors.delete (hm : Mirrors k valid session m) (ho : o.IsPlain) {s : o.State}
    (hkey : o.kind.key s = .known o.name) :
    ∃ session', (∃ outcome s', o.kind.resource.delete.execute k s session =
        ⟨.ok outcome, s', session'⟩) ∧ Mirrors k valid session' (m.set o none) := by
  have ht := exists_target hbase ho
  obtain ⟨token, status, text, session', hanswers, hstatus, hkeeps, hleaves⟩ :=
    hg.exists_answers hm.keeps ht .delete .none
      (p := fun status _ => status.isSuccess ∨ status = .notFound)
      fun token log hv _ => by
        cases hheld : Http.heldAt _ log with
        | none =>
          obtain ⟨text, hserver⟩ := hk.missing ho ht hv hheld (.inr rfl)
          exact ⟨_, text, hserver, .inr rfl⟩
        | some body =>
          obtain ⟨status, text, hserver, hstatus⟩ := hk.delete ho ht hv (by rw [hheld]; rfl)
          exact ⟨status, text, hserver, .inl hstatus⟩
  obtain ⟨hmethod, hnone, hmissing, hresponse⟩ := o.kind.toResourceKind.delete_shape
  have hrequest := o.kind.request_of_key hkey k.client.baseUrl
    (List.mem_cons_of_mem _ List.mem_cons_self) hnone
  refine ⟨session', ?_, ?_⟩
  · rw [← hmethod] at hanswers
    exact (Operation.execute_eq_ok_iff hmissing hresponse).mpr
      ⟨_, _, status, text, hrequest, hanswers, hstatus⟩
  · refine hm.set hbase ho ht (by simp) hkeeps ?_ fun t hne => ?_
    · rw [hleaves]
      exact if_pos rfl
    · rw [hleaves]
      exact Http.Request.leaves_of_ne hne.symm _

/-- An action gives back what the store holds after it, and the store is stood for again. -/
theorem Mirrors.run (hm : Mirrors k valid session m) (ho : o.IsPlain) {act : Act o.State}
    (h : act.Allowed (m o)) :
    ∃ session', act.run o.kind.resource k o.name (m o) session =
        .ok (entry (act.apply o.kind.resource (m o))) session' ∧
      Mirrors k valid session' (m.set o (act.apply o.kind.resource (m o))) := by
  cases act with
  | create config =>
    obtain ⟨session', happlies, hmirrors⟩ := hm.put hbase hg hk ho o.kind.create_puts
      (o.kind.settled_of_create h.1 h.2)
    have hcreate : o.kind.resource.createObject (some k)
        (o.kind.resource.planCreate (.known config)) session =
          .ok (o.kind.resource.planCreate (.known config)) session' :=
      (Resource.createObject_eq_ok_iff o.kind.toResourceKind.create_onMissing).mpr
        ⟨k, _, _, rfl, rfl, happlies, rfl⟩
    exact ⟨session', Act.run_create hcreate, hmirrors⟩
  | update proposed =>
    obtain ⟨hcanonical, prior, hprior, hid, hinPlace⟩ := h
    obtain ⟨op, hop, hputs⟩ := o.kind.update_puts
    obtain ⟨session', happlies, hmirrors⟩ := hm.put hbase hg hk ho hputs
      (o.kind.settled_of_update (hm.settled o prior hprior) hcanonical hid
        (Resource.replaceTriggers_of_inPlace hinPlace))
    have hupdate : o.kind.resource.updateObject (some k)
        (o.kind.resource.planUpdate (entry (m o)) (.known proposed) .null).1 session =
          .ok ⟨.known (o.kind.resource.applyDefaults proposed), .null⟩ session' := by
      rw [hprior]
      exact (Resource.updateObject_eq_ok_iff o.kind.toResourceKind.update_onMissing).mpr
        ⟨op, k, _, _, hop, rfl, rfl, happlies, rfl⟩
    exact ⟨session', Act.run_update hupdate, hmirrors⟩
  | read =>
    obtain ⟨s, hcurrent, hkey, hlast⟩ := hm.exists_current o
    have hset : m.set o (Act.read.apply o.kind.resource (m o)) = m := Function.update_eq_self o m
    rw [hset]
    cases hheld : m o with
    | some held =>
      obtain rfl := hlast held hheld
      obtain ⟨session', happlies, hmirrors⟩ := hm.read_of_some hbase hg hk ho hheld
      have hread : o.kind.resource.readObject (some k) { state := .known held } session =
          .ok { state := .known held } session' :=
        Resource.readObject_eq_ok_known_iff.mpr ⟨rfl, k, rfl, happlies⟩
      rw [hheld] at hcurrent
      exact ⟨session', Act.run_read hcurrent hread, hmirrors⟩
    | none =>
      obtain ⟨session', hexecute, hmirrors⟩ := hm.read_of_none hbase hg hk ho hheld hkey
      have hread : o.kind.resource.readObject (some k) { state := .known s } session =
          .ok { state := .null } session' :=
        (Resource.readObject_eq_ok_null_iff.mpr ⟨rfl, k, s, rfl, hexecute⟩).1
      rw [hheld] at hcurrent
      exact ⟨session', Act.run_read hcurrent hread, hmirrors⟩
  | destroy =>
    obtain ⟨s, hcurrent, hkey, -⟩ := hm.exists_current o
    obtain ⟨session', ⟨outcome, s', hexecute⟩, hmirrors⟩ := hm.delete hbase hg hk ho hkey
    have hdestroy := Resource.destroyObject_eq_ok_iff.mpr ⟨k, outcome, s', rfl, hexecute⟩
    exact ⟨session', Act.run_destroy hcurrent hdestroy, hmirrors⟩

theorem Mirrors.next (hm : Mirrors k valid session m) {a : Action} (ho : a.object.IsPlain)
    (h : a.act.Allowed (m a.object)) :
    ∃ session', World.next k ⟨session, m⟩ a =
        .ok (⟨session', m.next a⟩, (m.next a).answer a.object) ∧
      Mirrors k valid session' (m.next a) := by
  obtain ⟨session', hrun, hmirrors⟩ := hm.run hbase hg hk ho h
  refine ⟨session', ?_, hmirrors⟩
  simp only [World.next, hrun, known?_entry, Store.answer, Store.next, Store.set,
    Function.update_self]

/-- Where each action makes sense, none of them fails. -/
theorem Mirrors.runs (hm : Mirrors k valid session m) {actions : List Action}
    (h : World.Legal k ⟨session, m⟩ actions) :
    ∃ session', World.run k ⟨session, m⟩ actions =
        .ok (⟨session', (m.run actions).1⟩, (m.run actions).2) ∧
      Mirrors k valid session' (m.run actions).1 := by
  induction actions generalizing session m with
  | nil => exact ⟨session, rfl, hm⟩
  | cons a as ih =>
    obtain ⟨ho, hallowed, hrest⟩ := h
    obtain ⟨session₁, hnext, hm₁⟩ := hm.next hbase hg hk ho hallowed
    obtain ⟨session', hrun, hm'⟩ := ih hm₁ (hrest _ _ hnext)
    refine ⟨session', ?_, hm'⟩
    simp only [World.run, hnext, ok_bind, hrun, pure_eq_ok]
    rfl

/-- What makes sense for the store makes sense where it is stood for. -/
theorem Mirrors.legal (hm : Mirrors k valid session m) {actions : List Action}
    (h : m.Legal actions) : World.Legal k ⟨session, m⟩ actions := by
  induction actions generalizing session m with
  | nil => trivial
  | cons a as ih =>
    obtain ⟨ho, hallowed, hrest⟩ := h
    obtain ⟨session', hnext, hm'⟩ := hm.next hbase hg hk ho hallowed
    refine ⟨ho, hallowed, fun w answer hw => ?_⟩
    obtain ⟨rfl, -⟩ := Prod.mk.inj (Except.ok.inj (hnext.symm.trans hw))
    exact ih hm' hrest

end

end Upsert

/--
A control plane that keeps the bodies of objects and has none yet is a store to the user. Whatever
is done to whichever objects in turn, nothing fails, each action gives back what the store holds of
its object after it, and in the end the control plane holds the bodies of the states in the store,
and none besides.
-/
theorem Connection.KeepsBodies.simulates_store {k : Connection} {valid : Token → Prop}
    {tokenTarget : String} {scheme authority place : List Char} {session : Session}
    (hk : k.KeepsBodies valid) (hbase : Url.IsBase k.client.baseUrl scheme authority place)
    (hg : k.Grants valid tokenTarget) (hs : session.Keeps valid)
    (hempty : k.Holds session Store.empty) {actions : List Upsert.Action}
    (h : World.Legal k ⟨session, Store.empty⟩ actions) :
    ∃ session', World.run k ⟨session, Store.empty⟩ actions =
        .ok (⟨session', (Store.empty.run actions).1⟩, (Store.empty.run actions).2) ∧
      k.Holds session' (Store.empty.run actions).1 := by
  obtain ⟨session', hrun, hm⟩ := (Upsert.mirrors_empty hs hempty).runs hbase hg hk h
  exact ⟨session', hrun, hm.holds⟩

namespace Upsert

/-- A control plane in memory. -/
def memory : Connection := ⟨.of "http://cp" "a" "b", Http.keeper ""⟩

theorem memory_isBase :
    Url.IsBase memory.client.baseUrl ['h', 't', 't', 'p'] ['c', 'p'] [] where
  parts := by cbv
  web := by cbv
  host := by cbv
  ends := by simp [Url.isSlash]
  begins := by simp
  noQuery := by simp
  printable := by
    have h : (memory.client.baseUrl.toList.all fun c => 0x20 < c.toNat) = true := by cbv
    simpa only [List.all_eq_true, decide_eq_true_eq] using h

def label : Object := ⟨.dataLabel, "pii"⟩

def settings : Object := ⟨.authSettings, "r1"⟩

/-- A label is changed and destroyed while the settings of a repository stay. -/
def history : List Action :=
  [⟨label, .create ⟨.null, .known "pii", .null, .known [.known "a", .known "b"], .known []⟩⟩,
    ⟨settings, .create ⟨.null, .known "r1", .null, .known "enable", .null, .null⟩⟩,
    ⟨label, .update ⟨.known "pii", .known "pii", .known "Personal", .null,
      .known [⟨.known "REGO", .null, .null⟩]⟩⟩,
    ⟨label, .read⟩, ⟨label, .destroy⟩, ⟨label, .read⟩, ⟨settings, .read⟩]

theorem history_legal : Store.empty.Legal history := by
  have hlabel : label.IsPlain := Url.isPlain_of_all (by decide) (by cbv)
  have hsettings : settings.IsPlain := Url.isPlain_of_all (by decide) (by cbv)
  have hcreated : DataLabel.State.Canonical
      ⟨.null, .known "pii", .null, .known [.known "a", .known "b"], .known []⟩ := by
    refine ⟨trivial, ?_, by simp⟩
    simp only [Field.nullOr_known, List.forall_mem_cons]
    exact ⟨rfl, rfl, by simp⟩
  have hproposed : DataLabel.State.Canonical ⟨.known "pii", .known "pii", .known "Personal", .null,
      .known [⟨.known "REGO", .null, .null⟩]⟩ := by
    refine ⟨by simp, trivial, ?_⟩
    simp only [Field.knownWith_known, List.length_singleton, List.forall_mem_singleton]
    exact ⟨Nat.le_refl 1, rfl, trivial, trivial⟩
  refine ⟨hlabel, ⟨hcreated, rfl⟩, hsettings, ⟨⟨trivial, trivial, trivial, trivial⟩, rfl⟩, hlabel,
    ⟨hproposed, _, rfl, rfl, by decide⟩, ?_⟩
  exact ⟨hlabel, trivial, hlabel, trivial, hlabel, trivial, hsettings, trivial, trivial⟩

/-- In the end the label is gone and the settings are held. -/
theorem simulates_history :
    memory.KeepsBodies (fun token => token.secret = "t") ∧
    World.Legal memory ⟨{}, Store.empty⟩ history ∧
    ∃ session', World.run memory ⟨{}, Store.empty⟩ history =
        .ok (⟨session', (Store.empty.run history).1⟩, (Store.empty.run history).2) ∧
      memory.Holds session' (Store.empty.run history).1 ∧
      (Store.empty.run history).1 label = none ∧
      ((Store.empty.run history).1 settings).isSome := by
  have hk : memory.KeepsBodies (fun token => token.secret = "t") :=
    Connection.keeper_keepsBodies memory_isBase _
  have hg : memory.Grants (fun token => token.secret = "t") "/v1/users/oidc/token" :=
    Connection.keeper_grants (by decide +kernel)
  have hs : Session.Keeps {} fun token => token.secret = "t" := by simp [Session.Keeps]
  have hempty : memory.Holds {} Store.empty := fun _ _ _ _ => rfl
  have hlegal := (mirrors_empty hs hempty).legal memory_isBase hg hk history_legal
  obtain ⟨session', hrun, hholds⟩ := hk.simulates_store memory_isBase hg hs hempty hlegal
  exact ⟨hk, hlegal, session', hrun, hholds, by rfl, by rfl⟩

end Upsert
end ControlPlane
