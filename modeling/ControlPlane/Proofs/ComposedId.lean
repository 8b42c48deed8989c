import ControlPlane.ComposedId
import ControlPlane.Proofs.Text.Pieces

/-! Identifiers made of several parts are taken apart where they were put together. -/
namespace ControlPlane.ComposedId

theorem join_eq_intercalate (separator : Char) (parts : List String) :
    join separator parts = (String.singleton separator).intercalate parts := by
  rw [← String.toList_inj, String.toList_intercalate]
  simp [join]

theorem join_split (separator : Char) (id : String) : join separator (split separator id) = id := by
  rw [← String.toList_inj]
  simp [join, split, Function.comp_def, Text.intercalate_pieces]

theorem parse_eq_ok_iff {separator : Char} {expected : Nat} {id : String} {parts : List String} :
    parse separator expected id = .ok parts ↔
      split separator id = parts ∧ parts.length = expected ∧ "" ∉ parts := by
  simp only [parse]
  split_ifs with h
  · rw [Except.ok.injEq]
    constructor
    · rintro rfl
      exact ⟨rfl, h⟩
    · exact And.left
  · simp only [false_iff]
    rintro ⟨rfl, hparts⟩
    exact h hparts

/-- Text that can be told apart as a part of an identifier. -/
structure IsPart (p : String) : Prop where
  nonempty : p ≠ ""
  plain : separator ∉ p.toList

theorem split_join {separator : Char} {parts : List String} (hne : parts ≠ [])
    (h : ∀ p ∈ parts, separator ∉ p.toList) : split separator (join separator parts) = parts := by
  rw [split, join, String.toList_ofList, Text.pieces_intercalate, List.map_map]
  · simp [Function.comp_def]
  · simpa using hne
  · exact List.forall_mem_map.mpr h

theorem parse_join {parts : List String} (hne : parts ≠ []) (h : ∀ p ∈ parts, IsPart p) :
    parse separator parts.length (join separator parts) = .ok parts :=
  parse_eq_ok_iff.mpr ⟨split_join hne fun p hp => (h p hp).plain, rfl,
    fun hempty => (h "" hempty).nonempty rfl⟩

theorem parsePair_join {first second : String} (hfirst : IsPart first) (hsecond : IsPart second) :
    parsePair (join separator [first, second]) = .ok (first, second) := by
  have hparts : ∀ p ∈ [first, second], IsPart p := by
    simpa using ⟨hfirst, hsecond⟩
  have hparse : parse separator 2 (join separator [first, second]) = .ok [first, second] :=
    parse_join (List.cons_ne_nil _ _) hparts
  simp only [parsePair, hparse]

theorem parsePair_intercalate {first second : String} (hfirst : IsPart first)
    (hsecond : IsPart second) :
    parsePair ("/".intercalate [first, second]) = .ok (first, second) := by
  have hjoin := parsePair_join hfirst hsecond
  rw [join_eq_intercalate] at hjoin
  exact hjoin

/-- Parts, as many as are expected, that a separator tells apart. -/
structure Separates (separator : Char) (expected : Nat) (parts : List String) : Prop where
  nonempty : parts ≠ []
  length : parts.length = expected
  plain : ∀ p ∈ parts, p ≠ "" ∧ separator ∉ p.toList

theorem split_ne_nil (separator : Char) (id : String) : split separator id ≠ [] := by
  rw [split, ne_eq, List.map_eq_nil_iff]
  exact Text.pieces_ne_nil _ _

theorem not_mem_of_mem_split {separator : Char} {id p : String} (hp : p ∈ split separator id) :
    separator ∉ p.toList := by
  obtain ⟨piece, hpiece, rfl⟩ := List.mem_map.mp hp
  rw [String.toList_ofList]
  intro hmem
  simpa using Text.not_isSeparator_of_mem_pieces hpiece separator hmem

/-- An identifier is parsed as the parts that it is made of, and as no others. -/
theorem parse_eq_ok_iff_join {separator : Char} {expected : Nat} {id : String}
    {parts : List String} : parse separator expected id = .ok parts ↔
      Separates separator expected parts ∧ join separator parts = id := by
  rw [parse_eq_ok_iff]
  constructor
  · rintro ⟨rfl, hlength, hempty⟩
    refine ⟨⟨split_ne_nil separator id, hlength, ?_⟩, join_split separator id⟩
    intro p hp
    exact ⟨ne_of_mem_of_not_mem hp hempty, not_mem_of_mem_split hp⟩
  · rintro ⟨hparts, rfl⟩
    exact ⟨split_join hparts.nonempty fun p hp => (hparts.plain p hp).2, hparts.length,
      fun hempty => (hparts.plain "" hempty).1 rfl⟩

theorem parse_eq_ok_or_error (separator : Char) (expected : Nat) (id : String) :
    (∃ parts, parse separator expected id = .ok parts) ∨
      parse separator expected id = .error (.invalidId id expected separator) := by
  simp only [parse]
  split_ifs
  · exact .inl ⟨_, rfl⟩
  · exact .inr rfl

theorem parse_two_cases (id : String) :
    (∃ first second, parse separator 2 id = .ok [first, second] ∧
        parsePair id = .ok (first, second)) ∨
      parse separator 2 id = .error (.invalidId id 2 separator) ∧
        parsePair id = .error (.invalidId id 2 separator) := by
  rcases parse_eq_ok_or_error separator 2 id with ⟨parts, h⟩ | h
  · obtain ⟨first, second, rfl⟩ := List.length_eq_two.mp (parse_eq_ok_iff.mp h).2.1
    exact .inl ⟨first, second, h, by simp only [parsePair, h]⟩
  · exact .inr ⟨h, by simp only [parsePair, h]⟩

section ImportPair
variable {S : Type} {state : String → String → String → S} {id : String}

theorem importPair_of_parse_eq_ok {first second : String}
    (h : parse separator 2 id = .ok [first, second]) :
    importPair state id = .ok (state id first second) := by
  unfold importPair
  split
  · next hparse =>
    rw [h] at hparse
    cases hparse
  · next hparse =>
    rw [h] at hparse
    cases hparse
    rfl

theorem importPair_of_parse_eq_error {failure : Failure}
    (h : parse separator 2 id = .error failure) : importPair state id = .error failure := by
  unfold importPair
  split
  · next hparse =>
    rw [h] at hparse
    cases hparse
    rfl
  · next hparse =>
    rw [h] at hparse
    cases hparse

theorem importPair_eq_map (state : String → String → String → S) (id : String) :
    importPair state id = (parsePair id).map fun p => state id p.1 p.2 := by
  rcases parse_two_cases id with ⟨first, second, hparse, hpair⟩ | ⟨hparse, hpair⟩
  · rw [hpair, importPair_of_parse_eq_ok hparse]
    rfl
  · rw [hpair, importPair_of_parse_eq_error hparse]
    rfl

theorem importPair_eq_ok_iff {s : S} : importPair state id = .ok s ↔
    ∃ first second, parsePair id = .ok (first, second) ∧ s = state id first second := by
  rw [importPair_eq_map]
  cases parsePair id with
  | error failure => simp [Except.map]
  | ok p => simp [Except.map, Prod.ext_iff, eq_comm]

end ImportPair

theorem eq_intercalate_of_parsePair {id first second : String}
    (h : parsePair id = .ok (first, second)) : id = "/".intercalate [first, second] := by
  have hparse : parse separator 2 id = .ok [first, second] := by
    unfold parsePair at h
    split at h <;> simp_all
  rw [← (parse_eq_ok_iff.mp hparse).1]
  exact (join_split separator id).symm.trans (join_eq_intercalate separator _)

end ControlPlane.ComposedId
