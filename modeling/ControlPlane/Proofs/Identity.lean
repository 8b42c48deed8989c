import ControlPlane.Proofs.ComposedId
import ControlPlane.Proofs.Lifecycle

/-!
What tells the objects of a resource apart. Each kind of resource has attributes that make up the
ID of an object and its address, and each writer of a state keeps them or sets them together.
-/
namespace ControlPlane

/-- The operations on an object that exists. -/
def Resource.onObject {S : Type} (r : Resource S) : List (Operation S) :=
  r.read :: r.delete :: r.update.toList

structure Identity (S : Type) where
  id : S → Field String
  /-- The attributes that the ID is composed of. -/
  parts : S → List (Field String)
  /-- The attributes that a plan leaves to the control plane. -/
  computed : S → List (Field String)
  /-- Where the object with the parts is found. -/
  path : List String → String
  /-- The object that a reply names, where a read goes over to that object. -/
  named? : Json → Option String := fun _ => none

namespace Identity
variable {S : Type}

/-- All parts are known, and the ID is composed of them. -/
def Coherent (i : Identity S) (s : S) : Prop :=
  ∃ ps : List String, i.parts s = ps.map .known ∧ i.id s = .known ("/".intercalate ps)

/-- The two states are of one object. -/
def Agree (i : Identity S) (s s' : S) : Prop := i.id s' = i.id s ∧ i.parts s' = i.parts s

/-- The writers of the states of a resource respect an identity. -/
structure Lawful (i : Identity S) (r : Resource S) : Prop where
  /-- A plan overwrites the computed attributes, and no others. -/
  owns {s s' : S} (hm : r.markComputed s = r.markComputed s') (hc : i.computed s = i.computed s') :
    s = s'
  url {s : S} {ps : List String} (h : i.parts s = ps.map .known) (base : String) :
    ∀ op ∈ r.onObject, op.url s base = .ok (base ++ i.path ps)
  imports {id : String} {s : S} (h : r.importState id = .ok s) : i.Coherent s
  creates {config s : S} {base url : String} {j : Json}
    (hurl : r.create.url (r.markComputed (r.applyDefaults config)) base = .ok url)
    (hw : r.create.Writes j (r.markComputed (r.applyDefaults config)) s) : i.Coherent s
  reads {s s' : S} {j : Json} (hs : i.Coherent s) (hw : r.read.Writes j s s') :
    i.Agree s s' ∨ ∃ name, i.named? j = some name ∧ i.id s' = .known name ∧
      i.parts s' = [.known name]
  plans {prior proposed : S} (hc : i.computed proposed = i.computed prior)
    (ht : r.replaceTriggers prior (r.applyDefaults proposed) = []) :
    i.Agree prior (r.applyDefaults proposed)

theorem Coherent.of_agree {i : Identity S} {s s' : S} (h : i.Coherent s) (ha : i.Agree s s') :
    i.Coherent s' := by
  obtain ⟨ps, hparts, hid⟩ := h
  exact ⟨ps, ha.2.trans hparts, ha.1.trans hid⟩

theorem Coherent.single {i : Identity S} {s : S} {a : String} (hid : i.id s = .known a)
    (hparts : i.parts s = [.known a]) : i.Coherent s :=
  ⟨[a], hparts, hid⟩

theorem Coherent.pair {i : Identity S} {s : S} {a b : String}
    (hid : i.id s = .known ("/".intercalate [a, b])) (hparts : i.parts s = [.known a, .known b]) :
    i.Coherent s :=
  ⟨[a, b], hparts, hid⟩

theorem singleton_eq_map_known {x : Field String} {ps : List String} :
    [x] = ps.map .known ↔ ∃ a, ps = [a] ∧ x = .known a := by
  match ps with
  | [] => simp
  | [a] => simp
  | a :: b :: ps => simp

theorem pair_eq_map_known {x y : Field String} {ps : List String} :
    [x, y] = ps.map .known ↔ ∃ a b, ps = [a, b] ∧ x = .known a ∧ y = .known b := by
  match ps with
  | [] | [_] => simp
  | [a, b] => simp
  | a :: b :: c :: ps => simp

/-- Objects that are found by an ID of their own. -/
def own (id : S → Field String) (place : String) : Identity S where
  id := id
  parts s := [id s]
  computed s := [id s]
  path ps := place ++ "/" ++ ps.headD ""

theorem Lawful.own {R : Type} {r : Resource S} {id : S → Field String} {place : String}
    {imported : String → S} {told? : Json → Option String} {created : String → S → S}
    {read? : Json → Option R} {refresh : R → S → S}
    (owns : ∀ s s', r.markComputed s = r.markComputed s' → id s = id s' → s = s')
    (url : ∀ s a base, id s = .known a →
      ∀ op ∈ r.onObject, op.url s base = .ok (base ++ (place ++ "/" ++ a)))
    (imports : ∀ a, r.importState a = .ok (imported a))
    (id_imported : ∀ a, id (imported a) = .known a)
    (creates : r.create.response = some (.of told? created))
    (id_created : ∀ a s, id (created a s) = .known a)
    (reads : r.read.response = some (.of read? refresh))
    (id_refresh : ∀ a s, id (refresh a s) = id s)
    (id_applyDefaults : ∀ s, id (r.applyDefaults s) = id s) : (Identity.own id place).Lawful r where
  owns hm hc := owns _ _ hm (List.singleton_inj.mp hc)
  url h base := by
    obtain ⟨a, rfl, ha⟩ := singleton_eq_map_known.mp h
    exact url _ a base ha
  imports h := by
    obtain rfl := Except.ok.inj ((imports _).symm.trans h)
    exact .single (id_imported _) (congrArg ([·]) (id_imported _))
  creates _ hw := by
    obtain ⟨a, -, rfl⟩ := (Operation.writes_iff_of_response_eq_of creates).mp hw
    exact .single (id_created a _) (congrArg ([·]) (id_created a _))
  reads _ hw := by
    obtain ⟨a, -, rfl⟩ := (Operation.writes_iff_of_response_eq_of reads).mp hw
    exact .inl ⟨id_refresh a _, congrArg ([·]) (id_refresh a _)⟩
  plans hc _ := by
    have hid := (id_applyDefaults _).trans (List.singleton_inj.mp hc)
    exact ⟨hid, congrArg ([·]) hid⟩

/-- Objects that are found by a name that is given to them, which is their ID as well. -/
def named (id key : S → Field String) (path : String → String) : Identity S where
  id := id
  parts s := [key s]
  computed s := [id s]
  path ps := path (ps.headD "")

theorem Lawful.named {R : Type} {r : Resource S} {id key : S → Field String}
    {path : String → String} {imported : String → S} {read? : Json → Option R}
    {refresh : R → S → S}
    (owns : ∀ s s', r.markComputed s = r.markComputed s' → id s = id s' → s = s')
    (url : ∀ s a base, key s = .known a → ∀ op ∈ r.onObject, op.url s base = .ok (base ++ path a))
    (imports : ∀ a, r.importState a = .ok (imported a))
    (of_imported : ∀ a, id (imported a) = .known a ∧ key (imported a) = .known a)
    (creates : r.create.response = none)
    (key_known : ∀ s base url, r.create.url s base = .ok url → ∃ a, key s = .known a)
    (id_markComputed : ∀ s, id (r.markComputed s) = key (r.markComputed s))
    (reads : r.read.response = some (.of read? refresh))
    (of_refresh : ∀ a s, id (refresh a s) = key s ∧ key (refresh a s) = key s)
    (id_applyDefaults : ∀ s, id (r.applyDefaults s) = id s)
    (key_eq : ∀ s s', r.replaceTriggers s s' = [] → key s' = key s) :
    (Identity.named id key path).Lawful r where
  owns hm hc := owns _ _ hm (List.singleton_inj.mp hc)
  url h base := by
    obtain ⟨a, rfl, ha⟩ := singleton_eq_map_known.mp h
    exact url _ a base ha
  imports h := by
    obtain rfl := Except.ok.inj ((imports _).symm.trans h)
    exact .single (of_imported _).1 (congrArg ([·]) (of_imported _).2)
  creates hurl hw := by
    obtain rfl := (Operation.writes_iff_of_response_eq_none creates).mp hw
    obtain ⟨a, ha⟩ := key_known _ _ _ hurl
    exact .single ((id_markComputed _).trans ha) (congrArg ([·]) ha)
  reads hs hw := by
    obtain ⟨a, -, rfl⟩ := (Operation.writes_iff_of_response_eq_of reads).mp hw
    obtain ⟨ps, hparts, hid⟩ := hs
    obtain ⟨b, rfl, hb⟩ := singleton_eq_map_known.mp hparts
    obtain ⟨hid', hkey⟩ := of_refresh a _
    exact .inl ⟨hid'.trans (hb.trans hid.symm), congrArg ([·]) hkey⟩
  plans hc ht :=
    ⟨(id_applyDefaults _).trans (List.singleton_inj.mp hc), congrArg ([·]) (key_eq _ _ ht)⟩

/-- Objects that belong to others, and are found with the IDs of both. -/
def composed (id parent part : S → Field String) (path : String → String → String) :
    Identity S where
  id := id
  parts s := [parent s, part s]
  computed s := [id s, part s]
  path ps := path (ps.headD "") (ps.tail.headD "")

theorem Lawful.composed {R : Type} {r : Resource S} {id parent part : S → Field String}
    {path : String → String → String} {told? : Json → Option String}
    {created : String → Writer S Unit} {read? : Json → Option R} {refresh : R → S → S}
    (owns : ∀ s s', r.markComputed s = r.markComputed s' → id s = id s' → part s = part s' →
      s = s')
    (url : ∀ s a b base, parent s = .known a → part s = .known b →
      ∀ op ∈ r.onObject, op.url s base = .ok (base ++ path a b))
    (imports : ∀ a s, r.importState a = .ok s → ∃ b c, ComposedId.parsePair a = .ok (b, c) ∧
      id s = .known a ∧ parent s = .known b ∧ part s = .known c)
    (creates : r.create.response = some fun j => (told? j).map created)
    (of_created : ∀ b s s', created b s = .ok () s' → ∃ a, parent s' = .known a ∧
      part s' = .known b ∧ id s' = .known ("/".intercalate [a, b]))
    (reads : r.read.response = some (.of read? refresh))
    (of_refresh : ∀ a s, id (refresh a s) = id s ∧ parent (refresh a s) = parent s ∧
      part (refresh a s) = part s)
    (of_applyDefaults : ∀ s, id (r.applyDefaults s) = id s ∧ part (r.applyDefaults s) = part s)
    (parent_eq : ∀ s s', r.replaceTriggers s s' = [] → parent s' = parent s) :
    (Identity.composed id parent part path).Lawful r where
  owns hm hc := by
    simp only [Identity.composed, List.cons.injEq, and_true] at hc
    exact owns _ _ hm hc.1 hc.2
  url h base := by
    obtain ⟨a, b, rfl, ha, hb⟩ := pair_eq_map_known.mp h
    exact url _ a b base ha hb
  imports h := by
    obtain ⟨a, b, hpair, hid, ha, hb⟩ := imports _ _ h
    refine .pair (a := a) (b := b) ?_ ?_
    · rw [← ComposedId.eq_intercalate_of_parsePair hpair]
      exact hid
    · simp only [Identity.composed, ha, hb]
  creates _ hw := by
    obtain ⟨b, -, hb⟩ := (Operation.writes_iff_of_response_eq_map creates).mp hw
    obtain ⟨a, hparent, hpart, hid⟩ := of_created b _ _ hb
    exact .pair hid (by simp only [Identity.composed, hparent, hpart])
  reads _ hw := by
    obtain ⟨a, -, rfl⟩ := (Operation.writes_iff_of_response_eq_of reads).mp hw
    obtain ⟨hid, hparent, hpart⟩ := of_refresh a _
    exact .inl ⟨hid, by simp only [Identity.composed, hparent, hpart]⟩
  plans hc ht := by
    simp only [Identity.composed, List.cons.injEq, and_true] at hc
    obtain ⟨hid, hpart⟩ := of_applyDefaults _
    exact ⟨hid.trans hc.1, by simp only [Identity.composed, parent_eq _ _ ht, hpart, hc.2]⟩

end Identity

end ControlPlane
