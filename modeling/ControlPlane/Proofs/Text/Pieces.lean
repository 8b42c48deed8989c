import ControlPlane.Text.Pieces
import Mathlib

/-! Text that is cut at separators, and put together again. -/
namespace ControlPlane.Text
variable {isSeparator : Char → Bool}

theorem pieces_ne_nil (isSeparator : Char → Bool) (cs : List Char) :
    pieces isSeparator cs ≠ [] := by
  cases cs with
  | nil => simp [pieces]
  | cons c cs =>
    unfold pieces
    split_ifs
    · simp
    · split <;> simp

theorem pieces_cons_separator {c : Char} (hc : isSeparator c) (cs : List Char) :
    pieces isSeparator (c :: cs) = [] :: pieces isSeparator cs := by
  simp only [pieces, hc, if_true]

theorem pieces_cons_of_not {c : Char} (hc : ¬ isSeparator c) {cs piece : List Char}
    {rest : List (List Char)} (h : pieces isSeparator cs = piece :: rest) :
    pieces isSeparator (c :: cs) = (c :: piece) :: rest := by
  simp only [pieces, if_neg hc, h]

theorem pieces_of_forall_not {cs : List Char} (h : ∀ c ∈ cs, ¬ isSeparator c) :
    pieces isSeparator cs = [cs] := by
  induction cs with
  | nil => rfl
  | cons c cs ih =>
    rw [List.forall_mem_cons] at h
    exact pieces_cons_of_not h.1 (ih h.2)

theorem pieces_append_cons {c : Char} (hc : isSeparator c) (cs ds : List Char) :
    pieces isSeparator (cs ++ c :: ds) = pieces isSeparator cs ++ pieces isSeparator ds := by
  induction cs with
  | nil => exact pieces_cons_separator hc ds
  | cons b cs ih =>
    by_cases hb : isSeparator b
    · rw [List.cons_append, pieces_cons_separator hb, pieces_cons_separator hb, ih,
        List.cons_append]
    · cases hcs : pieces isSeparator cs with
      | nil => exact absurd hcs (pieces_ne_nil _ _)
      | cons piece rest =>
        rw [hcs, List.cons_append] at ih
        rw [List.cons_append, pieces_cons_of_not hb ih, pieces_cons_of_not hb hcs,
          List.cons_append]

/-- Text is what its pieces make with the separators between them. -/
theorem intercalate_pieces (separator : Char) (cs : List Char) :
    [separator].intercalate (pieces (· = separator) cs) = cs := by
  induction cs with
  | nil => simp [pieces]
  | cons c cs ih =>
    cases hp : pieces (· = separator) cs with
    | nil => exact absurd hp (pieces_ne_nil _ _)
    | cons piece rest =>
      rw [hp] at ih
      by_cases hc : c = separator
      · simp [pieces, hc, hp, List.intercalate_cons_cons, ih]
      · simp [pieces, hc, hp, List.intercalate_cons_cons_left, ih]

/-- Pieces that hold no separator of their own can be told apart again. -/
theorem pieces_intercalate {separator : Char} {parts : List (List Char)} (hne : parts ≠ [])
    (h : ∀ p ∈ parts, separator ∉ p) :
    pieces (· = separator) ([separator].intercalate parts) = parts := by
  induction parts with
  | nil => exact absurd rfl hne
  | cons p parts ih =>
    rw [List.forall_mem_cons] at h
    have hp : pieces (· = separator) p = [p] :=
      pieces_of_forall_not fun c hc => by
        simpa using fun hsep : c = separator => h.1 (hsep ▸ hc)
    cases parts with
    | nil => rw [List.intercalate_singleton, hp]
    | cons q parts =>
      rw [List.intercalate_cons_cons, List.append_assoc, List.singleton_append,
        pieces_append_cons (by simp), hp, ih (List.cons_ne_nil q parts) h.2,
        List.singleton_append]

theorem not_isSeparator_of_mem_pieces {cs piece : List Char}
    (h : piece ∈ pieces isSeparator cs) : ∀ c ∈ piece, ¬ isSeparator c := by
  induction cs generalizing piece with
  | nil =>
    obtain rfl := List.mem_singleton.mp h
    simp
  | cons b cs ih =>
    by_cases hb : isSeparator b
    · rw [pieces_cons_separator hb] at h
      rcases List.mem_cons.mp h with rfl | h
      · simp
      · exact ih h
    · obtain ⟨first, rest, hcs⟩ := List.exists_cons_of_ne_nil (pieces_ne_nil isSeparator cs)
      rw [pieces_cons_of_not hb hcs] at h
      rw [hcs] at ih
      rcases List.mem_cons.mp h with rfl | h
      · exact List.forall_mem_cons.mpr ⟨hb, ih List.mem_cons_self⟩
      · exact ih (List.mem_cons_of_mem _ h)

theorem sublist_of_mem_pieces {cs piece : List Char} (h : piece ∈ pieces isSeparator cs) :
    piece.Sublist cs := by
  induction cs generalizing piece with
  | nil =>
    obtain rfl := List.mem_singleton.mp h
    exact .refl _
  | cons b cs ih =>
    by_cases hb : isSeparator b
    · rw [pieces_cons_separator hb] at h
      rcases List.mem_cons.mp h with rfl | h
      · exact List.nil_sublist _
      · exact (ih h).cons b
    · obtain ⟨first, rest, hcs⟩ := List.exists_cons_of_ne_nil (pieces_ne_nil isSeparator cs)
      rw [pieces_cons_of_not hb hcs] at h
      rw [hcs] at ih
      rcases List.mem_cons.mp h with rfl | h
      · exact (ih List.mem_cons_self).cons_cons b
      · exact (ih (List.mem_cons_of_mem _ h)).cons b

end ControlPlane.Text
