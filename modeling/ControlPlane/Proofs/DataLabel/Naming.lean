import ControlPlane.Proofs.Atomicity
import ControlPlane.Proofs.Routing
import ControlPlane.Proofs.Url.Naming

/-!
The places of data labels. Labels are put under their names as they are, so that those whose names
are segments of a path are kept apart, and others take the places of labels that are not meant.
-/
namespace ControlPlane.DataLabel

/-- The path that labels are found below. -/
def place : List (List Char) := ["v1".toList, "datalabels".toList]

theorem isPlain_place : ∀ s ∈ place, Url.IsPlain s := by
  rw [place, List.forall_mem_cons, List.forall_mem_singleton]
  exact ⟨Url.isPlain_of_all (by decide) (by decide), Url.isPlain_of_all (by decide) (by decide)⟩

theorem url_eq {s : State} {name : String} (hname : s.name = .known name) (base : String) :
    ∀ op ∈ resource.operations, op.url s base = .ok (base ++ "/v1/datalabels/" ++ name) := by
  have hobject : objectUrl s base = .ok (base ++ "/v1/datalabels/" ++ name) := by
    rw [objectUrl, hname]
    rfl
  simp [Resource.operations, Resource.onObject, resource, hobject]

/--
The requests for a label go to one target, which depends on its name alone. It is one segment that
stands for the name if the name is a segment by itself, and only then. No two such labels share it.
-/
theorem labels_apart {k : Connection} {scheme authority : List Char}
    (hbase : Url.IsBase k.client.baseUrl scheme authority []) :
    ∃ target : String → String,
      (∀ (s : State) (name : String), s.name = .known name → ∀ op ∈ resource.operations,
        (∃ url, op.url s k.client.baseUrl = .ok url ∧
          Url.target? url [] = some (target name)) ∧
        ∀ session : Session, session.Reaches
          (fun t => Url.target? k.client.tokens.url [] = some t ∨ t = target name)
          (op.execute k s session).session) ∧
      (∀ name : String, Url.Names "/v1/datalabels/" (target name) name ↔
        Url.IsSegment name.toList) ∧
      ∀ name name' : String, Url.IsSegment name.toList → Url.IsSegment name'.toList →
        name ≠ name' → target name ≠ target name' := by
  have hplace (name : String) : ∃ t,
      Url.target? (k.client.baseUrl ++ "/v1/datalabels/" ++ name) [] = some t ∧
      (Url.Names "/v1/datalabels/" t name ↔ Url.IsSegment name.toList) :=
    Url.names_iff_isSegment (List.cons_ne_nil _ _) isPlain_place hbase
      (by simp [Url.joined])
  choose target htarget hnames using hplace
  refine ⟨target, ?_, hnames, ?_⟩
  · intro s name hname op hop
    have hurl := url_eq hname k.client.baseUrl op hop
    refine ⟨⟨_, hurl, htarget name⟩, Operation.reaches_execute hurl (fun t ht => .inl ht) ?_⟩
    intro t ht
    exact .inr (Option.some.inj (ht.symm.trans (htarget name)))
  · intro name name' hname hname' hne htargets
    have h := (hnames name).mpr hname
    rw [htargets] at h
    exact hne (h.name_eq ((hnames name').mpr hname'))

/-- Signs that mean something elsewhere in an address keep two names apart. -/
theorem labels_apart_signs : ∃ t t',
    (∀ session : Session, session.Reaches
      (fun r => Url.target? Located.atPort.client.tokens.url [] = some r ∨ r = t)
      (resource.delete.execute Located.atPort (imported "50% a b") session).session) ∧
    (∀ session : Session, session.Reaches
      (fun r => Url.target? Located.atPort.client.tokens.url [] = some r ∨ r = t')
      (resource.delete.execute Located.atPort (imported "50% a+b") session).session) ∧
    Url.Names "/v1/datalabels/" t "50% a b" ∧ Url.Names "/v1/datalabels/" t' "50% a+b" ∧
    t ≠ t' := by
  obtain ⟨target, hreach, hnames, hapart⟩ :=
    @labels_apart Located.atPort _ _ Located.atPort_isBase
  have hdelete : resource.delete ∈ resource.operations := by
    simp [Resource.operations, Resource.onObject]
  have hspace : Url.IsSegment "50% a b".toList := by decide
  have hplus : Url.IsSegment "50% a+b".toList := by decide
  exact ⟨_, _, (hreach _ _ rfl _ hdelete).2, (hreach _ _ rfl _ hdelete).2,
    (hnames _).mpr hspace, (hnames _).mpr hplus, hapart _ _ hspace hplus (by decide)⟩

/-- A label whose name goes on behind a sign takes the place of another label, and one without a
name that of all labels. -/
theorem other_label_addressed :
    let k : Connection := ⟨.of "http://cp" "a" "b", fun _ _ => .dropped⟩
    let session : Session := { token := some ⟨"t", none⟩ }
    let deleted (target : String) : Http.Request := ⟨.delete, target, some "Bearer t", .none⟩
    (resource.delete.execute k (imported "PII") session).session.log =
        [deleted "/v1/datalabels/PII"] ∧
      (resource.create.execute k (imported "PII#EU") session).session.log =
        (resource.create.execute k (imported "PII") session).session.log ∧
      (resource.delete.execute k (imported "PII#EU") session).session.log =
        [deleted "/v1/datalabels/PII"] ∧
      (resource.delete.execute k (imported "") session).session.log =
        [deleted "/v1/datalabels/"] ∧
      (resource.delete.execute k (imported "PII?all") session).session.log =
        [deleted "/v1/datalabels/PII?all"] := by
  exact ⟨rfl, rfl, rfl, rfl, rfl⟩

end ControlPlane.DataLabel
