import ControlPlane.Attribute
import Mathlib

/-! What optional attributes keep on their way to the control plane and back. -/
namespace ControlPlane.Field
variable {α β : Type}

/-- Null, or known with a value of the kind that is read back as it is. -/
def NullOr (p : α → Prop) : Field α → Prop
  | .null => True
  | .unknown => False
  | .known a => p a

/-- Known, with a value of a kind. -/
def KnownWith (p : α → Prop) : Field α → Prop
  | .known a => p a
  | _ => False

@[simp] theorem nullOr_null (p : α → Prop) : (null : Field α).NullOr p := trivial

@[simp] theorem not_nullOr_unknown (p : α → Prop) : ¬ (unknown : Field α).NullOr p := id

@[simp] theorem nullOr_known (p : α → Prop) (a : α) : (known a).NullOr p ↔ p a := Iff.rfl

@[simp] theorem not_knownWith_null (p : α → Prop) : ¬ (null : Field α).KnownWith p := id

@[simp] theorem not_knownWith_unknown (p : α → Prop) : ¬ (unknown : Field α).KnownWith p := id

@[simp] theorem knownWith_known (p : α → Prop) (a : α) : (known a).KnownWith p ↔ p a := Iff.rfl

theorem NullOr.imp {p q : α → Prop} {x : Field α} (h : x.NullOr p) (hpq : ∀ a, p a → q a) :
    x.NullOr q := by
  cases x with
  | null => trivial
  | unknown => exact h
  | known a => exact hpq a h

theorem KnownWith.imp {p q : α → Prop} {x : Field α} (h : x.KnownWith p) (hpq : ∀ a, p a → q a) :
    x.KnownWith q := by
  cases x with
  | null | unknown => exact h
  | known a => exact hpq a h

@[simp] theorem known?_null : (null : Field α).known? = none := rfl

@[simp] theorem known?_unknown : (unknown : Field α).known? = none := rfl

@[simp] theorem known?_known (a : α) : (known a).known? = some a := rfl

theorem isKnown_iff {x : Field α} : x.isKnown ↔ ∃ a, x = known a := by
  cases x <;> simp [isKnown]

@[simp] theorem getD_null (d : α) : (null : Field α).getD d = d := rfl

@[simp] theorem getD_unknown (d : α) : (unknown : Field α).getD d = d := rfl

@[simp] theorem getD_known (a d : α) : (known a).getD d = a := rfl

@[simp] theorem elems_known (xs : List α) : (known xs).elems = xs := rfl

@[simp] theorem first_known (xs : List α) : (known xs).first = xs.head? := rfl

@[simp] theorem first_single (block : Option α) : (single block).first = block := by
  cases block <;> rfl

@[simp] theorem text_known (s : String) : (known s).text = s := rfl

@[simp] theorem text_ofText (s : String) : (ofText s).text = s := by
  unfold ofText
  split_ifs with h
  · exact h.symm
  · rfl

@[simp] theorem getD_ofNumber (n : Int64) : (ofNumber n).getD 0 = n := by
  unfold ofNumber
  split_ifs with h
  · exact h.symm
  · rfl

@[simp] theorem getD_ofFlag (b : Bool) (prior : Field Bool) : (ofFlag b prior).getD false = b := by
  unfold ofFlag
  split_ifs with h
  · rfl
  · cases b with
    | false => rfl
    | true => simp at h

@[simp] theorem strings_knownStrings (vs : List String) : (knownStrings vs).strings = vs := by
  simp only [strings, knownStrings, elems_known, List.filterMap_map]
  exact List.filterMap_some

/-- An empty list is read back as null or as an empty list, and both hold no string. -/
@[simp] theorem strings_ofStrings (vs : List String) (prior : StringList) :
    (ofStrings vs prior).strings = vs := by
  unfold ofStrings
  split_ifs with h
  · rw [h.1]
    rfl
  · exact strings_knownStrings vs

theorem ofText_text_eq_self (x : Field String) : ofText x.text = x ↔ x.NullOr (· ≠ "") := by
  cases x with
  | null => simp [text, ofText]
  | unknown => simp [text, ofText]
  | known s => by_cases h : s = "" <;> simp [ofText, h]

theorem ofNumber_getD_eq_self (x : Field Int64) :
    ofNumber (x.getD 0) = x ↔ x.NullOr (· ≠ 0) := by
  cases x with
  | null => simp [ofNumber]
  | unknown => simp [ofNumber]
  | known n => by_cases h : n = 0 <;> simp [ofNumber, h]

theorem ofFlag_getD_eq_self (x : Field Bool) :
    ofFlag (x.getD false) x = x ↔ x.NullOr fun _ => True := by
  cases x <;> simp [ofFlag, isKnown]

theorem known_getD_eq_self (x : Field α) (d : α) : known (x.getD d) = x ↔ x.isKnown := by
  cases x <;> simp [isKnown]

theorem knownStrings_filterMap_eq (vs : List (Field String)) :
    knownStrings (vs.filterMap known?) = known vs ↔ ∀ v ∈ vs, v.isKnown := by
  rw [knownStrings, known.injEq]
  induction vs with
  | nil => simp
  | cons v vs ih =>
    cases v with
    | known s => simpa [isKnown] using ih
    | null | unknown =>
      have hle := List.length_filterMap_le known? vs
      have hne (v : Field String) : (vs.filterMap known?).map known ≠ v :: vs := by
        intro h
        have hlen := congrArg List.length h
        rw [List.length_map, List.length_cons] at hlen
        omega
      simp [List.filterMap_cons, isKnown, hne]

theorem ofStrings_strings_eq_self (xs : StringList) :
    ofStrings xs.strings xs = xs ↔ xs.NullOr fun vs => ∀ v ∈ vs, v.isKnown := by
  cases xs with
  | null => simp [strings, elems, ofStrings]
  | unknown => simp [strings, elems, ofStrings]
  | known vs =>
    rw [nullOr_known, ← knownStrings_filterMap_eq]
    unfold ofStrings
    rw [show (known vs).strings = vs.filterMap known? from rfl]
    split_ifs with h
    · have hne : knownStrings (vs.filterMap known?) ≠ known vs := by
        rw [h.1]
        exact Ne.symm h.2
      simp [hne]
    · rfl

theorem known_map_elems_eq_self (f : α → α) (x : Field (List α)) :
    known (x.elems.map f) = x ↔ x.KnownWith fun xs => ∀ a ∈ xs, f a = a := by
  cases x with
  | null | unknown => simp
  | known xs =>
    simp only [elems_known, known.injEq, knownWith_known]
    conv_lhs => rw [← List.map_id xs, List.map_map]
    exact List.map_inj_left

theorem single_map_first_eq_self (f : α → α) (x : Field (List α)) :
    single (x.first.map f) = x ↔ x.KnownWith fun bs => bs.length ≤ 1 ∧ ∀ b ∈ bs, f b = b := by
  cases x with
  | null => simp [single, first, elems]
  | unknown => simp [single, first, elems]
  | known bs =>
    match bs with
    | [] => simp [single]
    | [b] => simp [single]
    | b :: c :: bs => simp [single]

end ControlPlane.Field
