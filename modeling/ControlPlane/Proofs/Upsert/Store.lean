import ControlPlane.Proofs.Upsert.States
import ControlPlane.Proofs.Url.Base

/-!
The objects that are put in their place, as entries of a store. A store holds a state for each of
its objects, and a control plane that keeps bodies stands for one.
-/
namespace ControlPlane

namespace Http

/-- What a request leaves of the body that is held at a target. -/
def Request.leaves (r : Request) (target : String) (held : Option Json) : Option Json :=
  if r.target = target then
    match r.method, r.payload with
    | .put, .json body => some body
    | .delete, _ => none
    | _, _ => held
  else held

/-- The body at a target: the last one that was put there, if it was not deleted since. -/
def heldAt (target : String) (log : List Request) : Option Json :=
  log.foldl (fun held r => r.leaves target held) none

theorem heldAt_append_singleton (target : String) (log : List Request) (r : Request) :
    heldAt target (log ++ [r]) = r.leaves target (heldAt target log) := by
  rw [heldAt, List.foldl_append]
  rfl

theorem Request.leaves_of_ne {r : Request} {target : String} (h : r.target ≠ target)
    (held : Option Json) : r.leaves target held = held := if_neg h

theorem Request.leaves_of_get {r : Request} (h : r.method = .get) (target : String)
    (held : Option Json) : r.leaves target held = held := by
  unfold leaves
  rw [h]
  split_ifs <;> rfl

/-- Tokens are asked for with a method that puts nothing. -/
theorem heldAt_append_of_post (target : String) (log : List Request) {asked : List Request}
    (h : ∀ r ∈ asked, r.method = .post) : heldAt target (log ++ asked) = heldAt target log := by
  induction asked using List.reverseRecOn with
  | nil => rw [List.append_nil]
  | append_singleton asked r ih =>
    rw [List.forall_mem_append, List.forall_mem_singleton] at h
    rw [← List.append_assoc, heldAt_append_singleton, ih h.1]
    unfold Request.leaves
    rw [h.2]
    split_ifs <;> rfl

end Http

namespace UpsertKind

theorem parts_eq (kind : UpsertKind) (s : kind.State) :
    kind.toResourceKind.identity.parts s = [kind.key s] := by
  cases kind <;> rfl

theorem url_of_key (kind : UpsertKind) {s : kind.State} {name : String}
    (h : kind.key s = .known name) (base : String) :
    ∀ op ∈ kind.resource.onObject, op.url s base = .ok (base ++ kind.path name) :=
  kind.toResourceKind.identity_lawful.url
    (by rw [parts_eq, h, List.map_singleton]) base

/-- The segments of the path of an object. -/
def segments : UpsertKind → List Char → List (List Char)
  | .dataLabel, name =>
    [['v', '1'], ['d', 'a', 't', 'a', 'l', 'a', 'b', 'e', 'l', 's'], name]
  | .authSettings, name =>
    [['v', '1'], ['r', 'e', 'p', 'o', 's'], name, ['c', 'o', 'n', 'f'], ['a', 'u', 't', 'h']]

theorem toList_path (kind : UpsertKind) (name : String) :
    (kind.path name).toList = Url.joined (kind.segments name.toList) := by
  cases kind with
  | dataLabel =>
    have hpath : path .dataLabel name = "/v1/datalabels/" ++ name := rfl
    rw [hpath, String.toList_append]
    simp [segments, Url.joined]
  | authSettings =>
    have hpath : path .authSettings name = "/v1/repos/" ++ name ++ "/conf/auth" := rfl
    rw [hpath, String.toList_append, String.toList_append]
    simp [segments, Url.joined]

theorem segments_isPlain (kind : UpsertKind) {name : List Char} (h : Url.IsPlain name) :
    ∀ s ∈ kind.segments name, Url.IsPlain s := by
  have hv1 : Url.IsPlain ['v', '1'] := Url.isPlain_of_all (by simp) rfl
  cases kind with
  | dataLabel =>
    simp only [segments, List.forall_mem_cons]
    exact ⟨hv1, Url.isPlain_of_all (by simp) rfl, h, by simp⟩
  | authSettings =>
    simp only [segments, List.forall_mem_cons]
    exact ⟨hv1, Url.isPlain_of_all (by simp) rfl, h, Url.isPlain_of_all (by simp) rfl,
      Url.isPlain_of_all (by simp) rfl, by simp⟩

theorem path_injective {kind kind' : UpsertKind} {name name' : String}
    (h : kind.path name = kind'.path name') : kind = kind' ∧ name = name' := by
  have hlist := congrArg String.toList h
  cases kind <;> cases kind' <;>
    simp [path, ResourceKind.identity, DataLabel.identity, AuthSettings.identity,
      Identity.named] at hlist
  · exact ⟨rfl, String.toList_inj.mp hlist⟩
  · exact ⟨rfl, String.toList_inj.mp hlist⟩

end UpsertKind

namespace Upsert

/-- An object, by the name that it is given. -/
structure Object where
  kind : UpsertKind
  name : String
  deriving DecidableEq, Repr

namespace Object

abbrev State (o : Object) : Type := o.kind.State

def path (o : Object) : String := o.kind.path o.name

/-- Letters, digits, `-` and `_` make up the name. -/
def IsPlain (o : Object) : Prop := Url.IsPlain o.name.toList

end Object

theorem exists_target {base : String} {scheme authority place : List Char}
    (hbase : Url.IsBase base scheme authority place) {o : Object} (ho : o.IsPlain) :
    Url.target? (base ++ o.path) [] = some (String.ofList (Url.rootOf place) ++ o.path) := by
  have hne : o.kind.segments o.name.toList ≠ [] := by cases o.kind <;> simp [UpsertKind.segments]
  exact Url.target?_of_isBase hbase hne (o.kind.segments_isPlain ho) (o.kind.toList_path o.name)

theorem target_ne {base : String} {scheme authority place : List Char}
    (hbase : Url.IsBase base scheme authority place) {o o' : Object} (ho : o.IsPlain)
    (ho' : o'.IsPlain) (hne : o ≠ o') {target target' : String}
    (ht : Url.target? (base ++ o.path) [] = some target)
    (ht' : Url.target? (base ++ o'.path) [] = some target') : target ≠ target' := by
  rintro rfl
  rw [exists_target hbase ho] at ht
  rw [exists_target hbase ho'] at ht'
  have hpath := String.append_right_inj _ |>.mp (Option.some.inj (ht.trans ht'.symm))
  obtain ⟨kind, name⟩ := o
  obtain ⟨kind', name'⟩ := o'
  obtain ⟨rfl, rfl⟩ := UpsertKind.path_injective hpath
  exact hne rfl

end Upsert
end ControlPlane
