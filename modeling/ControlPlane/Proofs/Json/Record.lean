import ControlPlane.Json.Record
import ControlPlane.Proofs.Text.Decimal

/-! Records are read back from the objects that they are written as. -/
namespace ControlPlane.Json
variable {α β : Type}

/-- The keys are among the names and in their order. -/
def Within (names : List String) (members : List (String × Json)) : Prop :=
  (members.map Prod.fst).Sublist names

theorem fields?_obj {names : List String} {members : List (String × Json)} (hn : names.Nodup)
    (h : Within names members) : (obj members).fields? names = some members := by
  have hall : members.filter (fun m => names.contains m.1) = members := by
    apply List.filter_eq_self.mpr
    intro m hm
    simpa using h.subset (List.mem_map_of_mem hm)
  simp only [fields?, hall, if_pos (h.nodup hn)]

theorem lookup_cons_eq (m : String × Json) (ms : List (String × Json)) (name : String) :
    (m :: ms).lookup name = if name = m.1 then some m.2 else ms.lookup name := by
  rw [List.lookup_cons]
  split_ifs with h
  · rw [h, beq_self_eq_true]
  · rw [beq_false_of_ne h]

theorem lookup_memberIf (present : Bool) (key name : String) (value : Json) :
    (memberIf present key value).lookup name =
      if present && name == key then some value else none := by
  cases present <;> simp [memberIf, lookup_cons_eq]

theorem lookup_textMember (key name s : String) :
    (textMember key s).lookup name = if s ≠ "" && name == key then some (.str s) else none := by
  rw [textMember, lookup_memberIf]

theorem lookup_optionMember (key name : String) (encode : α → Json) (a : Option α) :
    (optionMember key encode a).lookup name = if name == key then a.map encode else none := by
  cases a <;> simp [optionMember, lookup_cons_eq]

namespace Within

theorem append {names names' : List String} {ms ms' : List (String × Json)}
    (h : Within names ms) (h' : Within names' ms') : Within (names ++ names') (ms ++ ms') := by
  rw [Within, List.map_append]
  exact List.Sublist.append h h'

theorem single (key : String) (value : Json) : Within [key] [(key, value)] :=
  List.Sublist.refl _

theorem skip {names : List String} {ms : List (String × Json)} (name : String)
    (h : Within names ms) : Within (name :: names) ms := List.Sublist.cons name h

theorem memberIf (present : Bool) (key : String) (value : Json) :
    Within [key] (Json.memberIf present key value) := by
  cases present <;> simp [Within, Json.memberIf]

theorem textMember (key s : String) : Within [key] (Json.textMember key s) := .memberIf _ _ _

theorem optionMember (key : String) (encode : α → Json) (a : Option α) :
    Within [key] (Json.optionMember key encode a) := by
  cases a <;> simp [Within, Json.optionMember]

end Within

@[simp] theorem int64?_number (n : Int64) : int64? (number n) = some n :=
  Text.Decimal.toInt64?_toInt n

theorem list?_map (encode : α → Json) {read : Json → Option α}
    (h : ∀ a, read (encode a) = some a) (as : List α) :
    list? read (.arr (as.map encode)) = some as := by
  induction as with
  | nil => rfl
  | cons a as ih =>
    simp only [list?] at ih ⊢
    simp [h, ih]

@[simp] theorem texts?_strings (vs : List String) : texts? (strings vs) = some vs :=
  list?_map .str (fun _ => rfl) vs

theorem fieldD?_eq_elim (given : List (String × Json)) (name : String)
    (read : Json → Option α) (absent : α) :
    fieldD? given name read absent = (given.lookup name).elim (some absent) read := by
  unfold fieldD?
  cases given.lookup name <;> rfl

@[simp] theorem elim_text (s : String) :
    (if s = "" then none else some (Json.str s)).elim (some "") text? = some s := by
  split_ifs with h
  · rw [h]
    rfl
  · rfl

@[simp] theorem elim_number (n : Int64) :
    (if n = 0 then none else some (number n)).elim (some 0) int64? = some n := by
  split_ifs with h
  · rw [h]
    rfl
  · exact int64?_number n

/-- Null stands for nothing, so that nothing else may be written as null. -/
theorem elim_option_map (encode : α → Json) {read : Json → Option β} {f : α → β}
    (hn : ∀ a, encode a ≠ .null) (h : ∀ a, read (encode a) = some (f a)) (a : Option α) :
    (a.map encode).elim (some none) (option? read) = some (a.map f) := by
  cases a with
  | none => rfl
  | some a =>
    have hread : option? read (encode a) = (read (encode a)).map some := by
      cases he : encode a with
      | null => exact absurd he (hn a)
      | _ => rfl
    rw [Option.map_some, Option.elim_some, hread, h]
    rfl

theorem elim_option (encode : α → Json) {read : Json → Option α}
    (hn : ∀ a, encode a ≠ .null) (h : ∀ a, read (encode a) = some a) (a : Option α) :
    (a.map encode).elim (some none) (option? read) = some a := by
  rw [elim_option_map encode hn (f := id) h, Option.map_id_apply]

theorem only?_obj (name : String) (read : Json → Option α) (value : Json) :
    only? name read (.obj [(name, value)]) = read value := by
  have h : (obj [(name, value)]).fields? [name] = some [(name, value)] :=
    fields?_obj (by simp) (.single name value)
  simp [only?, h, field?]

theorem fieldD?_obj (name : String) (read : Json → Option α) (absent : α) (value : Json) :
    (do fieldD? (← (obj [(name, value)]).fields? [name]) name read absent) = read value := by
  have h : (obj [(name, value)]).fields? [name] = some [(name, value)] :=
    fields?_obj (by simp) (.single name value)
  simp [h, fieldD?]

end ControlPlane.Json
