import ControlPlane.Catalog
import ControlPlane.Proofs.Alike
import ControlPlane.Resource.Lifecycle

/-!
Steps beside each other. A resource whose operations do not tell two states apart treats the objects
of both alike.
-/
namespace ControlPlane

open Http (Likeness)

variable {L : Likeness} {S α ε : Type} {V : S → S → Prop} {k k' : Connection}

/-- One failure, or values that go together. -/
inductive Except.Alike (V : α → α → Prop) : Except ε α → Except ε α → Prop
  | ok {a b : α} (h : V a b) : Except.Alike V (.ok a) (.ok b)
  | error (e : ε) : Except.Alike V (.error e) (.error e)

/-- Two ends of a writer: it fails in the same way or not at all, and leaves states that go
together. -/
inductive WriteAlike (V : S → S → Prop) :
    EStateM.Result Failure S Unit → EStateM.Result Failure S Unit → Prop
  | ok {s s' : S} (h : V s s') : WriteAlike V (.ok () s) (.ok () s')
  | error (failure : Failure) {s s' : S} (h : V s s') :
    WriteAlike V (.error failure s) (.error failure s')

inductive Field.Alike (V : α → α → Prop) : Field α → Field α → Prop
  | null : Field.Alike V .null .null
  | unknown : Field.Alike V .unknown .unknown
  | known {a b : α} (h : V a b) : Field.Alike V (.known a) (.known b)

/-- Objects whose states go together. -/
structure Managed.Alike (V : S → S → Prop) (m m' : Managed S) : Prop where
  state : m.state.Alike V m'.state
  kept : m'.kept = m.kept

theorem Field.alike_eq_iff {x y : Field α} : x.Alike Eq y ↔ x = y := by
  constructor
  · rintro (_ | _ | h)
    · rfl
    · rfl
    · rw [h]
  · rintro rfl
    cases x with
    | null => exact .null
    | unknown => exact .unknown
    | known a => exact .known rfl

theorem Managed.alike_eq_iff {m m' : Managed S} : m.Alike Eq m' ↔ m = m' := by
  obtain ⟨state, kept⟩ := m
  obtain ⟨state', kept'⟩ := m'
  constructor
  · rintro ⟨hstate, hkept⟩
    have hstate : state = state' := Field.alike_eq_iff.mp hstate
    have hkept : kept' = kept := hkept
    rw [hstate, hkept]
  · intro h
    cases h
    exact ⟨Field.alike_eq_iff.mpr rfl, rfl⟩

/-- An operation that does not tell two states apart. -/
structure Operation.Respects (op : Operation S) (L : Likeness) (V : S → S → Prop) : Prop where
  url {s s' : S} (h : V s s') (base : String) : op.url s' base = op.url s base
  payload {s s' : S} (h : V s s') : Except.Alike L.Carries (op.payload s) (op.payload s')
  takeIn {s s' : S} (h : V s s') (url : String) (reply : List UInt8) :
    WriteAlike V (op.takeIn url reply s) (op.takeIn url reply s')

namespace Operation
variable {op : Operation S}

theorem respects_eq (op : Operation S) (L : Likeness) : op.Respects L Eq where
  url h _ := by rw [h]
  payload {s _} h := by
    obtain rfl := h
    cases op.payload s with
    | error failure => exact .error failure
    | ok payload => exact .ok (.refl L payload)
  takeIn {s _} h url reply := by
    obtain rfl := h
    cases op.takeIn url reply s with
    | error failure s => exact .error failure rfl
    | ok _ s => exact .ok rfl

theorem Respects.of_writes (url : ∀ s s', V s s' → ∀ base, op.url s' base = op.url s base)
    (payload : ∀ s s', V s s' → Except.Alike L.Carries (op.payload s) (op.payload s'))
    (writes : ∀ response ∈ op.response, ∀ j, ∀ write ∈ response j, ∀ s s', V s s' →
      WriteAlike V (write s) (write s')) : op.Respects L V where
  url h := url _ _ h
  payload h := payload _ _ h
  takeIn {s s'} h url reply := by
    unfold Operation.takeIn
    cases hresponse : op.response with
    | none => exact .ok h
    | some response =>
      simp only
      split_ifs with hblank
      · exact .ok h
      · cases hwrite : (Json.parse? reply).bind response with
        | none => exact .error _ h
        | some write =>
          obtain ⟨j, -, hj⟩ := Option.bind_eq_some_iff.mp hwrite
          exact writes response hresponse j write hj s s' h

/-- What is left of two runs that go alike. -/
structure Run.Alike (L : Likeness) (V : S → S → Prop) (run run' : Run S) : Prop where
  outcome : run'.outcome = run.outcome
  state : V run.state run'.state
  session : run.session.Alike L run'.session

theorem Respects.execute (hop : op.Respects L V) (hk : k.Alike L k') {s s' : S} (h : V s s')
    {session session' : Session} (hs : session.Alike L session') :
    (op.execute k s session).Alike L V (op.execute k' s' session') := by
  unfold Operation.execute
  rw [hk.baseUrl, hop.url h]
  cases op.url s k.client.baseUrl with
  | error failure => exact ⟨rfl, h, hs⟩
  | ok url =>
    have hpayload := hop.payload h
    simp only
    generalize op.payload s = payload, op.payload s' = payload' at hpayload ⊢
    cases hpayload with
    | error failure => exact ⟨rfl, h, hs⟩
    | @ok payload payload' hp =>
      have hsend := hk.send op.method url [] hp session session' hs
      simp only
      generalize k.send op.method url [] payload session = sent,
        k'.send op.method url [] payload' session' = sent' at hsend ⊢
      cases hsend with
      | error failure hs =>
        simp only
        split_ifs
        · exact ⟨rfl, h, hs⟩
        · exact ⟨rfl, h, hs⟩
      | @ok reply _ _ _ hv hs =>
        obtain rfl := hv
        have htake := hop.takeIn h url reply
        simp only
        generalize op.takeIn url reply s = taken, op.takeIn url reply s' = taken' at htake ⊢
        cases htake with
        | error failure h => exact ⟨rfl, h, hs⟩
        | ok h => exact ⟨rfl, h, hs⟩

end Operation

namespace Resource
variable {r : Resource S} {m m' : Managed S}

theorem run_alike {op : Operation S} (hop : op.Respects L V) (hk : k.Alike L k') {s s' : S}
    (h : V s s') :
    RunAlike L (fun a b => a.1 = b.1 ∧ V a.2 b.2) (r.run (some k) op s)
      (r.run (some k') op s') := by
  intro session session' hs
  obtain ⟨houtcome, hstate, hsession⟩ := hop.execute hk h hs
  unfold run
  simp only
  generalize op.execute k s session = run, op.execute k' s' session' = run' at *
  obtain ⟨_, state, session₁⟩ := run
  obtain ⟨outcome, state', session₁'⟩ := run'
  obtain rfl := houtcome
  cases outcome with
  | error failure => exact .error _ hsession
  | ok outcome => exact .ok ⟨rfl, hstate⟩ hsession

theorem createObject_alike (hop : r.create.Respects L V) (hk : k.Alike L k') (hm : m.Alike V m') :
    RunAlike L (Managed.Alike V) (r.createObject (some k) m) (r.createObject (some k') m') := by
  obtain ⟨state, kept⟩ := m
  obtain ⟨state', _⟩ := m'
  obtain ⟨hstate, rfl⟩ := hm
  cases hstate with
  | null | unknown => exact .throw _
  | known h =>
    refine (run_alike hop hk h).bind ?_
    rintro ⟨_, s⟩ ⟨_, s'⟩ ⟨-, h⟩
    exact .pure ⟨.known h, rfl⟩

theorem readObject_alike (hop : r.read.Respects L V) (hk : k.Alike L k') (hm : m.Alike V m') :
    RunAlike L (Managed.Alike V) (r.readObject (some k) m) (r.readObject (some k') m') := by
  obtain ⟨state, kept⟩ := m
  obtain ⟨state', _⟩ := m'
  obtain ⟨hstate, rfl⟩ := hm
  cases hstate with
  | null => exact .pure ⟨.null, rfl⟩
  | unknown => exact .pure ⟨.unknown, rfl⟩
  | known h =>
    refine (run_alike hop hk h).bind ?_
    rintro ⟨outcome, s⟩ ⟨_, s'⟩ ⟨houtcome, h⟩
    obtain rfl := houtcome
    cases outcome with
    | applied => exact .pure ⟨.known h, rfl⟩
    | notFound => exact .pure ⟨.null, rfl⟩

theorem updateObject_alike (hop : ∀ op ∈ r.update, op.Respects L V) (hk : k.Alike L k')
    (hm : m.Alike V m') :
    RunAlike L (Managed.Alike V) (r.updateObject (some k) m) (r.updateObject (some k') m') := by
  obtain ⟨state, kept⟩ := m
  obtain ⟨state', _⟩ := m'
  obtain ⟨hstate, rfl⟩ := hm
  unfold updateObject
  cases hupdate : r.update with
  | none => exact .throw _
  | some update =>
    cases hstate with
    | null | unknown => exact .throw _
    | known h =>
      refine (run_alike (hop update hupdate) hk h).bind ?_
      rintro ⟨_, s⟩ ⟨_, s'⟩ ⟨-, h⟩
      exact .pure ⟨.known h, rfl⟩

theorem destroyObject_alike (hop : r.delete.Respects L V) (hk : k.Alike L k')
    {prior prior' : Field S} (h : prior.Alike V prior') :
    RunAlike L Eq (r.destroyObject (some k) prior) (r.destroyObject (some k') prior') := by
  cases h with
  | null | unknown => exact .pure rfl
  | known h => exact (run_alike hop hk h).bind fun _ _ _ => .pure rfl

end Resource

theorem Binding.composed_alike (hk : k.Alike L k') (sidecarId : String) :
    RunAlike L Eq (composed k sidecarId) (composed k' sidecarId) := by
  simp only [composed, listing, hk.url]
  exact (hk.items _).bind_eq fun _ => (hk.getJson _ _ _).bind_eq fun _ => .pure rfl

theorem DataSourceKind.lookUp_alike (kind : DataSourceKind) (hk : k.Alike L k') (q : kind.State) :
    RunAlike L Eq (kind.source.lookUp k q) (kind.source.lookUp k' q) := by
  cases kind with
  | dataLabel =>
    simp only [source, DataLabel.lookup, hk.url]
    exact (hk.getJson _ _ _).bind_eq fun _ => .pure rfl
  | repository =>
    simp only [source, Repository.lookup, Repository.listing, hk.url]
    exact (hk.items _).bind_eq fun _ => .pure rfl
  | samlCertificate =>
    simp only [source, System.samlLookup, hk.url]
    exact (hk.getJson _ _ _).bind_eq fun _ => .pure rfl
  | boundPorts =>
    simp only [source, Binding.portsLookup]
    exact (RunAlike.liftExcept _).bind_eq fun sidecarId =>
      (Binding.composed_alike hk sidecarId).bind_eq fun _ => .pure rfl
  | sidecarId =>
    simp only [source, Sidecar.idLookup, hk.url]
    refine (RunAlike.liftExcept _).bind_eq fun name => (hk.getJson _ _ _).bind_eq fun entries => ?_
    cases Sidecar.idOf? name entries with
    | none => exact .throw _
    | some id => exact .pure rfl
  | listener =>
    simp only [source, Listener.lookup, hk.url]
    exact (RunAlike.liftExcept _).bind_eq fun _ => (hk.getJson _ _ _).bind_eq fun _ => .pure rfl
  | systemInfo =>
    simp only [source, System.infoLookup, hk.url]
    exact hk.getJson _ _ _

theorem DataSource.readConfig_alike {S : Type} {d : DataSource S}
    (h : ∀ q, RunAlike L Eq (d.lookUp k q) (d.lookUp k' q)) (config : Field S) :
    RunAlike L Eq (d.readConfig (some k) config) (d.readConfig (some k') config) := by
  intro s s' hs
  cases config with
  | null | unknown => exact .ok rfl hs
  | known q =>
    have hlook := h q s s' hs
    simp only [DataSource.readConfig]
    generalize d.lookUp k q s = r, d.lookUp k' q s' = r' at hlook ⊢
    cases hlook with
    | error failure hs => exact .error _ hs
    | ok hv hs =>
      obtain rfl := hv
      exact .ok rfl hs

end ControlPlane
