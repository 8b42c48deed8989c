import ControlPlane.Proofs.Attribute
import ControlPlane.Proofs.Reads
import ControlPlane.ServiceAccount

/-!
The permissions of an account, which are a set that travels as a list. While the set stays the same
the state keeps the list that it has, in whatever order and however often the control plane lists
it.
-/
namespace ControlPlane.ServiceAccount

/-- The permissions that an account is told to have. -/
def permissions (a : ServiceAccount) : Finset String := a.permissionIds.toFinset

/-- The permissions of an account, as far as they are known. -/
def State.permissions (s : State) : Finset String := s.permissionIds.strings.toFinset

theorem sameSet_iff (xs ys : List String) : sameSet xs ys ↔ xs.toFinset = ys.toFinset := by
  have hall (xs ys : List String) : xs.all (ys.contains ·) ↔ xs.toFinset ⊆ ys.toFinset := by
    simp [Finset.subset_iff]
  rw [sameSet, Bool.and_eq_true, hall xs ys, hall ys xs]
  exact Finset.Subset.antisymm_iff.symm

variable {a : ServiceAccount} {s s' : State} {listed : Finset String}

theorem permissionIds_refresh (a : ServiceAccount) (s : State) :
    (refresh a s).permissionIds =
      if s.permissions = a.permissions then s.permissionIds
      else .ofStrings a.permissionIds s.permissionIds := by
  have hsame := sameSet_iff s.permissionIds.strings a.permissionIds
  unfold State.permissions permissions
  simp only [refresh, hsame]

theorem permissions_refresh (a : ServiceAccount) (s : State) :
    (refresh a s).permissions = a.permissions := by
  rw [State.permissions, permissionIds_refresh]
  by_cases h : s.permissions = a.permissions
  · rw [if_pos h]
    exact h
  · rw [if_neg h, Field.strings_ofStrings]
    rfl

theorem permissionIds_refresh_of_eq (h : s.permissions = a.permissions) :
    (refresh a s).permissionIds = s.permissionIds := by
  rw [permissionIds_refresh, if_pos h]

/-- Once the state has the set that is listed, the list stays. -/
theorem permissionIds_foldl_refresh {told : List ServiceAccount}
    (h : ∀ a ∈ told, a.permissions = listed) (hs : s.permissions = listed) :
    (told.foldl (fun s a => refresh a s) s).permissionIds = s.permissionIds := by
  induction told generalizing s with
  | nil => rfl
  | cons a told ih =>
    rw [List.forall_mem_cons] at h
    have hrefresh : (refresh a s).permissions = listed := (permissions_refresh a s).trans h.1
    rw [List.foldl_cons, ih h.2 hrefresh]
    exact permissionIds_refresh_of_eq (hs.trans h.1.symm)

/--
While one set of permissions is listed, in any orders and with any repetitions, the list of an
account changes at the first time at most, and not even then if it has this set already. At all
times its known elements are the set that was listed.
-/
theorem permissions_steady (s : State) (listed : Finset String) (first : ServiceAccount)
    (later : List ServiceAccount) (h : ∀ a ∈ first :: later, a.permissions = listed) :
    let s₁ := refresh first s
    let s' := later.foldl (fun s a => refresh a s) s₁
    s'.permissionIds = s₁.permissionIds ∧
      (s.permissions = listed → s'.permissionIds = s.permissionIds) ∧
      s'.permissions = listed ∧
      ∀ replies s'', resource.Reads s replies s'' →
        tellings ofJson? replies = first :: later → s'' = s' := by
  intro s₁ s'
  rw [List.forall_mem_cons] at h
  have hfirst : s₁.permissions = listed := (permissions_refresh first s).trans h.1
  have hsteady : s'.permissionIds = s₁.permissionIds := permissionIds_foldl_refresh h.2 hfirst
  refine ⟨hsteady, ?_, ?_, ?_⟩
  · intro hs
    exact hsteady.trans (permissionIds_refresh_of_eq (hs.trans h.1.symm))
  · rw [State.permissions, hsteady]
    exact hfirst
  · intro replies s'' hreads htold
    have hread : resource.read.response = some (.of ofJson? refresh) := rfl
    rw [hreads.eq_foldl hread, htold]
    rfl

/-- An account that has permissions of a list. -/
def State.granted (permissionIds : StringList) : State :=
  ⟨.known "c1", .known "ci", permissionIds, .known "c1", .known "s"⟩

/-- Two permissions are listed in three ways. The first one is taken by an account without
permissions, and none by an account that has both, beside one that is not known. -/
theorem permissions_steady_shuffled :
    let first : ServiceAccount := ⟨"ci", ["b", "a", "b"]⟩
    let later : List ServiceAccount := [⟨"ci", ["a", "b"]⟩, ⟨"ci", ["b", "a"]⟩]
    (∀ a ∈ first :: later, a.permissions = {"a", "b"}) ∧
    (later.foldl (fun s a => refresh a s) (refresh first (.granted .null))).permissionIds =
      Field.knownStrings ["b", "a", "b"] ∧
    (State.granted (.known [.known "a", .unknown, .known "b"])).permissions = {"a", "b"} ∧
    (later.foldl (fun s a => refresh a s)
        (refresh first (.granted (.known [.known "a", .unknown, .known "b"])))).permissionIds =
      .known [.known "a", .unknown, .known "b"] := by
  intro first later
  have hlisted : ∀ a ∈ first :: later, a.permissions = {"a", "b"} := by decide
  have hgranted : (State.granted (.known [.known "a", .unknown, .known "b"])).permissions =
      {"a", "b"} := by decide
  obtain ⟨hnone, -⟩ := permissions_steady (.granted .null) {"a", "b"} first later hlisted
  obtain ⟨-, hboth, -⟩ := permissions_steady (.granted (.known [.known "a", .unknown, .known "b"]))
    {"a", "b"} first later hlisted
  have hfirst : (refresh first (.granted .null)).permissionIds =
      Field.knownStrings ["b", "a", "b"] := by decide
  exact ⟨hlisted, hnone.trans hfirst, hgranted, hboth hgranted⟩

end ControlPlane.ServiceAccount
