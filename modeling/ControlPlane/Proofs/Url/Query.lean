import ControlPlane.Proofs.Text.Form
import ControlPlane.Url.Target

/-! The parameters of a request, as they are read from its target. -/
namespace ControlPlane.Url

/-- The path of a target, which ends where the query begins. -/
def pathOf (target : String) : List Char := target.toList.takeWhile (· ≠ '?')

/-- The parameters in the query of a target. -/
def paramsOf (target : String) : List (String × String) :=
  Text.Form.decode ((target.toList.dropWhile (· ≠ '?')).drop 1)

theorem ne_mark_of_mem_escape {b : UInt8} {c : Char}
    (hc : c ∈ if isPathByte b then [Char.ofNat b.toNat] else Text.percent b) : c ≠ '?' := by
  split_ifs at hc with hplain
  · obtain rfl := List.mem_singleton.mp hc
    intro h
    rw [Text.eq_of_ofNat_toNat_eq h] at hplain
    contradiction
  · rcases Text.mem_percent hc with rfl | ⟨n, hn, rfl⟩
    · decide
    · clear hc
      revert n
      decide

theorem ne_mark_of_mem_path {cs : List Char} {c : Char} (hc : c ∈ path cs) : c ≠ '?' := by
  simp only [path, escapeUnless, List.mem_flatMap, List.mem_cons] at hc
  obtain ⟨s, -, rfl | ⟨b, -, hb⟩⟩ := hc
  · decide
  · exact ne_mark_of_mem_escape hb

/-- The tail of a target: its query, if there is one, behind a mark. -/
def tail (query : Option (List Char)) : List Char :=
  match query with
  | none => []
  | some q => '?' :: q

theorem pathOf_path_tail (cs : List Char) (query : Option (List Char)) :
    pathOf (String.ofList (path cs ++ tail query)) = path cs := by
  have hpath : ∀ c ∈ path cs, decide (c ≠ '?') = true :=
    fun c hc => decide_eq_true (ne_mark_of_mem_path hc)
  rw [pathOf, String.toList_ofList, List.takeWhile_append_of_pos hpath]
  cases query <;> simp [tail]

theorem paramsOf_path_tail (cs : List Char) (query : Option (List Char)) :
    paramsOf (String.ofList (path cs ++ tail query)) = Text.Form.decode (query.getD []) := by
  have hpath : ∀ c ∈ path cs, decide (c ≠ '?') = true :=
    fun c hc => decide_eq_true (ne_mark_of_mem_path hc)
  rw [paramsOf, String.toList_ofList, List.dropWhile_append_of_pos hpath]
  cases query <;> simp [tail]

theorem decode_query? (own : Option (List Char)) (params : List (String × String)) :
    Text.Form.decode ((query? own params).getD []) =
      Text.Form.decode ((query? own []).getD []) ++ params := by
  have hnil : Text.Form.decode [] = [] := rfl
  simp only [query?, if_true]
  split_ifs with h
  · rw [h, List.append_nil]
  · cases own with
    | none => simp [hnil, Text.Form.decode_encode]
    | some q =>
      rw [Option.map_some]
      cases escapeUnless isQueryByte q with
      | nil => simp [hnil, Text.Form.decode_encode]
      | cons c cs =>
        simp only [Option.getD_some]
        rw [Text.Form.decode_append_cons, Text.Form.decode_encode]

theorem target?_params {url target : String} (h : target? url [] = some target)
    (params : List (String × String)) :
    ∃ target', target? url params = some target' ∧ pathOf target' = pathOf target ∧
      paramsOf target' = paramsOf target ++ params := by
  unfold target? at h ⊢
  obtain ⟨rest, hrest, rfl⟩ := Option.map_eq_some_iff.mp h
  rw [hrest]
  refine ⟨_, rfl, ?_, ?_⟩
  · exact (pathOf_path_tail _ _).trans (pathOf_path_tail _ _).symm
  · refine (paramsOf_path_tail _ _).trans ?_
    rw [decode_query?]
    exact congrArg (· ++ params) (paramsOf_path_tail _ _).symm

/-- What is sent to an address has its path, and its own parameters before those that are added. -/
theorem exists_of_target?_eq_some {url target : String} {params : List (String × String)}
    (h : target? url params = some target) :
    ∃ own, target? url [] = some own ∧ pathOf target = pathOf own ∧
      paramsOf target = paramsOf own ++ params := by
  obtain ⟨own, hown⟩ : ∃ own, target? url [] = some own := by
    unfold target? at h ⊢
    obtain ⟨rest, hrest, -⟩ := Option.map_eq_some_iff.mp h
    rw [hrest]
    exact ⟨_, rfl⟩
  obtain ⟨target', htarget', hpath, hparams⟩ := target?_params hown params
  obtain rfl := Option.some.inj (h.symm.trans htarget')
  exact ⟨own, hown, hpath, hparams⟩

end ControlPlane.Url
