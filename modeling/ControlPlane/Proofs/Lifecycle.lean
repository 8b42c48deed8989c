import ControlPlane.Proofs.Operation
import ControlPlane.Resource.Lifecycle

/-! The steps in the life of an object that succeed, as the operations that they run. -/
namespace ControlPlane.Resource
variable {S : Type} {r : Resource S} {k? : Option Connection} {op : Operation S} {s s' : S}
  {session session' : Session}

theorem run_eq_error {k : Connection} {failure : Failure}
    (h : (op.execute k s session).outcome = .error failure) :
    r.run (some k) op s session =
      .error (r.failed op.kind failure) (op.execute k s session).session := by
  unfold run
  cases hrun : op.execute k s session with
  | mk outcome state session' =>
    rw [hrun] at h
    cases h
    simp only [hrun]

theorem run_eq_ok {k : Connection} {outcome : Outcome}
    (h : (op.execute k s session).outcome = .ok outcome) :
    r.run (some k) op s session =
      .ok (outcome, (op.execute k s session).state) (op.execute k s session).session := by
  unfold run
  cases hrun : op.execute k s session with
  | mk outcome state session' =>
    rw [hrun] at h
    cases h
    simp only [hrun]

theorem run_eq_ok_iff {outcome : Outcome} :
    r.run k? op s session = .ok (outcome, s') session' ↔
      ∃ k, k? = some k ∧ op.execute k s session = ⟨.ok outcome, s', session'⟩ := by
  unfold run
  cases k? with
  | none => simp
  | some k =>
    simp only [Option.some.injEq, exists_eq_left']
    obtain ⟨outcome, state, session₁⟩ := op.execute k s session
    cases outcome <;> simp [and_assoc]

/-- An operation that a missing object fails can only end well by going through. -/
theorem run_eq_ok_iff_applies (hop : op.onMissing = .fail) {outcome : Outcome} :
    r.run k? op s session = .ok (outcome, s') session' ↔
      ∃ k, k? = some k ∧ outcome = .applied ∧ op.Applies k s session s' session' := by
  rw [run_eq_ok_iff]
  refine exists_congr fun k => and_congr_right fun _ => ?_
  cases outcome with
  | applied => simp [Operation.execute_eq_applied_iff]
  | notFound =>
    constructor
    · intro h
      have hmissing := (Operation.accept_of_execute_eq_notFound h).1
      rw [hop] at hmissing
      contradiction
    · intro h
      exact absurd h.1 (by decide)

theorem bind_eq_ok_iff {α β : Type} {x : Step α} {f : α → Step β} {b : β} :
    (x >>= f) session = .ok b session' ↔
      ∃ a session₁, x session = .ok a session₁ ∧ f a session₁ = .ok b session' := by
  change EStateM.bind x f session = _ ↔ _
  unfold EStateM.bind
  cases x session <;> simp

theorem pure_eq_ok_iff {α : Type} {a b : α} :
    (pure a : Step α) session = .ok b session' ↔ a = b ∧ session = session' := by
  change EStateM.Result.ok a session = .ok b session' ↔ _
  simp

theorem throw_ne_ok {α : Type} {d : Diagnostic} {b : α} :
    (throw d : Step α) session ≠ .ok b session' := by
  change EStateM.Result.error d session ≠ .ok b session'
  simp

theorem createObject_eq_ok_iff (hop : r.create.onMissing = .fail) {planned object : Managed S} :
    r.createObject k? planned session = .ok object session' ↔
      ∃ k s s', k? = some k ∧ planned.state = .known s ∧
        r.create.Applies k s session s' session' ∧
        object = { planned with state := .known s' } := by
  obtain ⟨state, kept⟩ := planned
  cases state with
  | null | unknown => simp [createObject, throw_ne_ok]
  | known s =>
    simp only [createObject, bind_eq_ok_iff, Prod.exists, run_eq_ok_iff_applies hop, pure_eq_ok_iff]
    constructor
    · intro h
      obtain ⟨_, s', _, ⟨k, hk, -, h⟩, rfl, rfl⟩ := h
      exact ⟨k, s, s', hk, rfl, h, rfl⟩
    · intro h
      obtain ⟨k, _, s', hk, hs, h, rfl⟩ := h
      cases hs
      exact ⟨.applied, s', session', ⟨k, hk, rfl, h⟩, rfl, rfl⟩

theorem updateObject_eq_ok_iff (hop : ∀ op ∈ r.update, op.onMissing = .fail)
    {planned object : Managed S} :
    r.updateObject k? planned session = .ok object session' ↔
      ∃ op k s s', r.update = some op ∧ k? = some k ∧ planned.state = .known s ∧
        op.Applies k s session s' session' ∧ object = { planned with state := .known s' } := by
  obtain ⟨state, kept⟩ := planned
  unfold updateObject
  cases hupdate : r.update with
  | none => simp [throw_ne_ok]
  | some op =>
    rw [hupdate] at hop
    cases state with
    | null | unknown => simp [throw_ne_ok]
    | known s =>
      simp only [bind_eq_ok_iff, Prod.exists, run_eq_ok_iff_applies (hop op rfl), pure_eq_ok_iff]
      constructor
      · intro h
        obtain ⟨_, s', _, ⟨k, hk, -, h⟩, rfl, rfl⟩ := h
        exact ⟨op, k, s, s', rfl, hk, rfl, h, rfl⟩
      · intro h
        obtain ⟨_, k, _, s', hop, hk, hs, h, rfl⟩ := h
        cases hop
        cases hs
        exact ⟨.applied, s', session', ⟨k, hk, rfl, h⟩, rfl, rfl⟩

theorem readObject_eq_ok_known_iff {kept kept' : Field Unit} :
    r.readObject k? ⟨.known s, kept⟩ session = .ok ⟨.known s', kept'⟩ session' ↔
      kept' = kept ∧ ∃ k, k? = some k ∧ r.read.Applies k s session s' session' := by
  simp only [readObject, bind_eq_ok_iff, Prod.exists, run_eq_ok_iff]
  constructor
  · intro h
    obtain ⟨outcome, s₁, session₁, ⟨k, hk, hrun⟩, h⟩ := h
    cases outcome with
    | notFound =>
      have hstate := congrArg Managed.state (pure_eq_ok_iff.mp h).1
      simp at hstate
    | applied =>
      obtain ⟨hobject, rfl⟩ := pure_eq_ok_iff.mp h
      simp only [Managed.mk.injEq, Field.known.injEq] at hobject
      obtain ⟨rfl, rfl⟩ := hobject
      exact ⟨rfl, k, hk, Operation.execute_eq_applied_iff.mp hrun⟩
  · intro h
    obtain ⟨rfl, k, hk, h⟩ := h
    exact ⟨.applied, s', session', ⟨k, hk, Operation.execute_eq_applied_iff.mpr h⟩, rfl⟩

theorem exists_reply_of_readObject {kept kept' : Field Unit}
    (run : r.readObject k? ⟨.known s, kept⟩ session = .ok ⟨.known s', kept'⟩ session') :
    ∃ k status reply, k? = some k ∧ k.lastReply? session' = some (.complete status reply) ∧
      (reply.all Text.isBlankByte ∧ s' = s ∨
        ∃ j, r.read.Writes j s s' ∧ (r.read.response.isSome → Json.parse? reply = some j)) := by
  obtain ⟨-, k, rfl, url, payload, reply, -, -, hsend, habsorb⟩ :=
    readObject_eq_ok_known_iff.mp run
  obtain ⟨status, hlast⟩ := Connection.lastReply?_of_send hsend
  refine ⟨k, status, reply, rfl, hlast, ?_⟩
  by_cases hblank : reply.all Text.isBlankByte
  · exact .inl ⟨hblank, Except.ok.inj (habsorb.symm.trans (Operation.absorb_of_blank hblank))⟩
  · exact .inr (Operation.Writes.of_absorb hblank habsorb)

theorem writes_or_eq_of_readObject {k : Connection} {kept kept' : Field Unit}
    {status : Http.Status} {reply : List UInt8}
    (run : r.readObject (some k) ⟨.known s, kept⟩ session = .ok ⟨.known s', kept'⟩ session')
    (last : k.lastReply? session' = some (.complete status reply)) :
    reply.all Text.isBlankByte ∧ s' = s ∨
      ∃ j, r.read.Writes j s s' ∧ (r.read.response.isSome → Json.parse? reply = some j) := by
  obtain ⟨_, _, _, hk, hlast, hread⟩ := exists_reply_of_readObject run
  obtain rfl := Option.some.inj hk
  obtain ⟨-, rfl⟩ := Http.Reply.complete.inj (Option.some.inj (last.symm.trans hlast))
  exact hread

theorem readObject_eq_ok_null_iff {kept : Field Unit} {object : Managed S} :
    r.readObject k? ⟨.known s, kept⟩ session = .ok object session' ∧ object.state = .null ↔
      object = ⟨.null, kept⟩ ∧
        ∃ k s', k? = some k ∧ r.read.execute k s session = ⟨.ok .notFound, s', session'⟩ := by
  simp only [readObject, bind_eq_ok_iff, Prod.exists, run_eq_ok_iff]
  constructor
  · rintro ⟨⟨outcome, s', session₁, ⟨k, hk, hrun⟩, h⟩, hnull⟩
    cases outcome with
    | applied =>
      obtain ⟨rfl, -⟩ := pure_eq_ok_iff.mp h
      cases hnull
    | notFound =>
      obtain ⟨rfl, rfl⟩ := pure_eq_ok_iff.mp h
      exact ⟨rfl, k, s', hk, hrun⟩
  · rintro ⟨rfl, k, s', hk, hrun⟩
    exact ⟨⟨.notFound, s', session', ⟨k, hk, hrun⟩, rfl⟩, rfl⟩

theorem destroyObject_eq_ok_iff :
    r.destroyObject k? (.known s) session = .ok () session' ↔
      ∃ k outcome s', k? = some k ∧ r.delete.execute k s session = ⟨.ok outcome, s', session'⟩ := by
  simp only [destroyObject, bind_eq_ok_iff, Prod.exists, run_eq_ok_iff, pure_eq_ok_iff]
  constructor
  · rintro ⟨outcome, s', _, ⟨k, hk, hrun⟩, -, rfl⟩
    exact ⟨k, outcome, s', hk, hrun⟩
  · rintro ⟨k, outcome, s', hk, hrun⟩
    exact ⟨outcome, s', session', ⟨k, hk, hrun⟩, trivial, rfl⟩

theorem bind_eq_error {α β : Type} {x : Step α} {f : α → Step β} {d : Diagnostic}
    (h : x session = .error d session') : (x >>= f) session = .error d session' := by
  change EStateM.bind x f session = _
  simp only [EStateM.bind, h]

theorem createObject_eq_error {k : Connection} {failure : Failure} {kept : Field Unit}
    (h : (r.create.execute k s session).outcome = .error failure) :
    r.createObject (some k) ⟨.known s, kept⟩ session =
      .error (r.failed r.create.kind failure) (r.create.execute k s session).session :=
  bind_eq_error (run_eq_error h)

theorem updateObject_eq_error {k : Connection} {failure : Failure} {kept : Field Unit}
    (hop : r.update = some op) (h : (op.execute k s session).outcome = .error failure) :
    r.updateObject (some k) ⟨.known s, kept⟩ session =
      .error (r.failed op.kind failure) (op.execute k s session).session := by
  unfold updateObject
  rw [hop]
  exact bind_eq_error (run_eq_error h)

end ControlPlane.Resource
