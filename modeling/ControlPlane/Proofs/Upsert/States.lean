import ControlPlane.Proofs.Attribute
import ControlPlane.Proofs.Codec
import ControlPlane.Proofs.Identity.Kinds

/-!
Objects that are put in their place, to create them and to update them. What is put for a planned
object is read back as the object that was planned.
-/
namespace ControlPlane

/-- Null takes the default, so that only what is not known yet has no value then. -/
theorem Field.isKnown_orDefault {α : Type} {x : Field α} (h : x.NullOr fun _ => True) (value : α) :
    (x.orDefault value).isKnown := by
  cases x with
  | null | known => rfl
  | unknown => exact absurd h id

namespace DataLabel

/-- A rule that leaves nothing open. Its type is required, and its other parts can be null. -/
structure RuleState.Canonical (r : RuleState) : Prop where
  type : r.type.isKnown
  code : r.code.NullOr (· ≠ "")
  status : r.status.NullOr fun _ => True

/-- A configuration of a label that leaves nothing open. -/
structure State.Canonical (s : State) : Prop where
  description : s.description.NullOr (· ≠ "")
  tags : s.tags.NullOr fun vs => ∀ v ∈ vs, v.isKnown
  rule : s.rule.KnownWith fun rs => rs.length ≤ 1 ∧ ∀ r ∈ rs, r.Canonical

/-- A canonical state that has all its defaults. -/
structure State.Settled (s : State) : Prop where
  canonical : s.Canonical
  status : s.rule.KnownWith fun rs => ∀ r ∈ rs, r.status.isKnown

theorem RuleState.canonical_applyDefaults {r : RuleState} (h : r.Canonical) :
    r.applyDefaults.Canonical ∧ r.applyDefaults.status.isKnown := by
  have hstatus := Field.isKnown_orDefault h.status "ENABLED"
  refine ⟨⟨h.type, h.code, ?_⟩, hstatus⟩
  obtain ⟨status, hstatus⟩ := Field.isKnown_iff.mp hstatus
  simp only [applyDefaults, hstatus, Field.nullOr_known]

theorem settled_applyDefaults {s : State} (h : s.Canonical) : (applyDefaults s).Settled := by
  obtain ⟨description, tags, rule⟩ := h
  cases hrule : s.rule with
  | null | unknown => simp [hrule] at rule
  | known rs =>
    rw [hrule, Field.knownWith_known] at rule
    have hplanned : (applyDefaults s).rule = .known (rs.map RuleState.applyDefaults) := by
      simp only [applyDefaults, hrule, Field.map]
    constructor
    · refine ⟨description, tags, ?_⟩
      rw [hplanned, Field.knownWith_known, List.length_map, List.forall_mem_map]
      exact ⟨rule.1, fun r hr => (RuleState.canonical_applyDefaults (rule.2 r hr)).1⟩
    · rw [hplanned, Field.knownWith_known, List.forall_mem_map]
      exact fun r hr => (RuleState.canonical_applyDefaults (rule.2 r hr)).2

theorem Rule.exists_of_settled {r : RuleState} (h : r.Canonical) (hstatus : r.status.isKnown) :
    ∃ a, ofState r = .ok a ∧ a.toState = r := by
  obtain ⟨type, code, status⟩ := r
  obtain ⟨type, rfl⟩ := Field.isKnown_iff.mp h.type
  obtain ⟨status, rfl⟩ := Field.isKnown_iff.mp hstatus
  refine ⟨⟨type, code.text, status⟩, rfl, ?_⟩
  simp only [toState, (Field.ofText_text_eq_self code).mpr h.code]

/-- What is sent for a settled label leaves its state as it is when it is read back. -/
theorem exists_of_settled {s : State} (h : s.Settled) (hid : s.id = s.name) :
    ∃ d, ofState s = .ok d ∧ d.description.isSome ∧ refresh d s = s := by
  obtain ⟨id, name, description, tags, rule⟩ := s
  obtain rfl : id = name := hid
  obtain ⟨⟨hdescription, htags, hrule⟩, hstatus⟩ := h
  have hback : ∃ a, rule.first.mapM Rule.ofState = .ok a ∧ .single (a.map Rule.toState) = rule := by
    cases rule with
    | null | unknown => exact False.elim hrule
    | known rs =>
      rw [Field.knownWith_known] at hrule hstatus
      match rs with
      | [] => exact ⟨none, rfl, rfl⟩
      | [r] =>
        obtain ⟨a, ha, hr⟩ := Rule.exists_of_settled (hrule.2 r List.mem_cons_self)
          (hstatus r List.mem_cons_self)
        have hmap : (Rule.ofState r).map some = .ok (some a) := by rw [ha]; rfl
        exact ⟨some a, hmap, by rw [Option.map_some, hr]; rfl⟩
      | _ :: _ :: _ => exact absurd hrule.1 (by simp)
  obtain ⟨a, ha, hrule⟩ := hback
  refine ⟨⟨some description.text, tags.strings, a⟩, ?_, rfl, ?_⟩
  · simp only [ofState, ha, ok_bind, pure_eq_ok]
  · simp only [refresh, Option.getD_some, (Field.ofText_text_eq_self description).mpr hdescription,
      (Field.ofStrings_strings_eq_self tags).mpr htags, hrule]

end DataLabel

namespace AuthSettings

/-- A configuration that leaves nothing open. -/
structure State.Canonical (s : State) : Prop where
  allowNativeAuth : s.allowNativeAuth.NullOr fun _ => True
  clientTls : s.clientTls.NullOr fun _ => True
  repoTls : s.repoTls.NullOr fun _ => True
  authType : s.authType.NullOr fun _ => True

/-- A state that has all its defaults. -/
structure State.Settled (s : State) : Prop where
  allowNativeAuth : s.allowNativeAuth.isKnown
  clientTls : s.clientTls.isKnown
  repoTls : s.repoTls.isKnown
  authType : s.authType.isKnown

theorem settled_applyDefaults {s : State} (h : s.Canonical) : (applyDefaults s).Settled where
  allowNativeAuth := Field.isKnown_orDefault h.allowNativeAuth _
  clientTls := Field.isKnown_orDefault h.clientTls _
  repoTls := Field.isKnown_orDefault h.repoTls _
  authType := Field.isKnown_orDefault h.authType _

theorem exists_of_settled {s : State} (h : s.Settled) (hid : s.id = s.repositoryId) :
    ∃ a, ofState s = .ok a ∧ refresh a s = s := by
  obtain ⟨id, repositoryId, allowNativeAuth, clientTls, repoTls, authType⟩ := s
  obtain rfl : id = repositoryId := hid
  obtain ⟨allow, rfl⟩ := Field.isKnown_iff.mp h.allowNativeAuth
  obtain ⟨client, rfl⟩ := Field.isKnown_iff.mp h.clientTls
  obtain ⟨repo, rfl⟩ := Field.isKnown_iff.mp h.repoTls
  obtain ⟨type, rfl⟩ := Field.isKnown_iff.mp h.authType
  exact ⟨⟨allow, client, repo, type⟩, rfl, rfl⟩

end AuthSettings

/-- The resources whose objects are put in their place. -/
inductive UpsertKind where
  | dataLabel
  | authSettings
  deriving DecidableEq, Repr

namespace UpsertKind

abbrev toResourceKind : UpsertKind → ResourceKind
  | .dataLabel => .dataLabel
  | .authSettings => .authSettings

abbrev State (kind : UpsertKind) : Type := kind.toResourceKind.State

abbrev resource (kind : UpsertKind) : Resource kind.State := kind.toResourceKind.resource

def id (kind : UpsertKind) : kind.State → Field String := kind.toResourceKind.identity.id

/-- The attribute that gives an object its place. -/
def key : (kind : UpsertKind) → kind.State → Field String
  | .dataLabel => DataLabel.State.name
  | .authSettings => AuthSettings.State.repositoryId

def path (kind : UpsertKind) (name : String) : String := kind.toResourceKind.identity.path [name]

def body : (kind : UpsertKind) → kind.State → Except Failure Json
  | .dataLabel => DataLabel.body
  | .authSettings => AuthSettings.body

/-- How a body that was put is told. -/
def wrap : UpsertKind → Json → Json
  | .dataLabel, body => body
  | .authSettings, body => .obj [("authInfo", body)]

def Canonical : (kind : UpsertKind) → kind.State → Prop
  | .dataLabel => DataLabel.State.Canonical
  | .authSettings => AuthSettings.State.Canonical

/-- A state as it is returned for an object: named by its ID, and with all its defaults. -/
structure Settled (kind : UpsertKind) (name : String) (s : kind.State) : Prop where
  id : kind.id s = .known name
  key : kind.key s = .known name
  defaults : match kind, s with
    | .dataLabel, s => DataLabel.State.Settled s
    | .authSettings, s => AuthSettings.State.Settled s

theorem settled_of_create (kind : UpsertKind) {name : String} {config : kind.State}
    (h : kind.Canonical config) (hkey : kind.key config = .known name) :
    kind.Settled name (kind.resource.markComputed (kind.resource.applyDefaults config)) := by
  cases kind with
  | dataLabel =>
    have hdefaults := DataLabel.settled_applyDefaults h
    exact ⟨hkey, hkey, ⟨⟨hdefaults.canonical.description, hdefaults.canonical.tags,
      hdefaults.canonical.rule⟩, hdefaults.status⟩⟩
  | authSettings =>
    have hdefaults := AuthSettings.settled_applyDefaults h
    exact ⟨hkey, hkey, ⟨hdefaults.allowNativeAuth, hdefaults.clientTls, hdefaults.repoTls,
      hdefaults.authType⟩⟩

theorem settled_of_update (kind : UpsertKind) {name : String} {prior proposed : kind.State}
    (hprior : kind.Settled name prior) (h : kind.Canonical proposed)
    (hid : kind.id proposed = kind.id prior)
    (htriggers : kind.resource.replaceTriggers prior (kind.resource.applyDefaults proposed) = []) :
    kind.Settled name (kind.resource.applyDefaults proposed) := by
  cases kind with
  | dataLabel =>
    have hkey := Resource.changed_eq_nil_iff.mp htriggers
    exact ⟨hid.trans hprior.id, hkey.symm.trans hprior.key, DataLabel.settled_applyDefaults h⟩
  | authSettings =>
    have hkey := Resource.changed_eq_nil_iff.mp htriggers
    exact ⟨hid.trans hprior.id, hkey.symm.trans hprior.key, AuthSettings.settled_applyDefaults h⟩

/-- What is put for a settled state is written back as that state. -/
theorem writes_of_settled (kind : UpsertKind) {name : String} {s : kind.State}
    (h : kind.Settled name s) :
    ∃ body, kind.body s = .ok body ∧
      ∀ told, (kind.wrap body).Same told → kind.resource.read.Writes told s s := by
  cases kind with
  | dataLabel =>
    obtain ⟨d, hd, hdescription, hrefresh⟩ :=
      DataLabel.exists_of_settled h.defaults (h.id.trans h.key.symm)
    refine ⟨d.toJson, by rw [body, DataLabel.body, hd]; rfl, fun told hsame => ?_⟩
    obtain ⟨text, htext⟩ := Option.isSome_iff_exists.mp hdescription
    have hread : DataLabel.ofJson? told = some d := by
      rw [← DataLabel.ofJson?_unordered _ _ hsame, wrap, DataLabel.ofJson?_toJson]
      obtain ⟨description, tags, rule⟩ := d
      obtain rfl : description = some text := htext
      rfl
    exact (Operation.writes_iff_of_response_eq_of rfl).mpr ⟨d, hread, hrefresh.symm⟩
  | authSettings =>
    obtain ⟨a, ha, hrefresh⟩ := AuthSettings.exists_of_settled h.defaults (h.id.trans h.key.symm)
    refine ⟨a.toJson, by rw [body, AuthSettings.body, ha]; rfl, fun told hsame => ?_⟩
    have hread : Json.only? "authInfo" AuthSettings.ofJson? told = some a := by
      rw [← AuthSettings.ofJson?_unordered.only? "authInfo" _ _ hsame, wrap, Json.only?_obj,
        AuthSettings.ofJson?_toJson]
    exact (Operation.writes_iff_of_response_eq_of rfl).mpr ⟨a, hread, hrefresh.symm⟩

end UpsertKind
end ControlPlane
