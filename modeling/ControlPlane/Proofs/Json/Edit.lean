import ControlPlane.Proofs.Json.Text

/-! Objects whose members are left out or changed by their keys. -/
namespace ControlPlane.Json
variable {α : Type}

/-- Leaves the members of a key out of an object. -/
def dropMember (key : String) : Json → Json
  | .obj members => .obj (members.filter fun m => m.1 ≠ key)
  | value => value

/-- Changes the values of a key of an object. -/
def mapMember (key : String) (f : Json → Json) : Json → Json
  | .obj members => .obj (members.map fun m => if m.1 = key then (m.1, f m.2) else m)
  | value => value

/-- Hides the value of a member that is there. -/
def hideMember (key : String) : Json → Json := mapMember key fun _ => .null

theorem optionMember_map {β : Type} (key : String) (encode : β → Json) (f : α → β) (a : Option α) :
    optionMember key encode (a.map f) = optionMember key (fun a => encode (f a)) a := by
  cases a <;> rfl

theorem map_optionMember (key name : String) (f : Json → Json) (encode : α → Json) (a : Option α) :
    (optionMember name encode a).map (fun m => if m.1 = key then (m.1, f m.2) else m) =
      optionMember name (fun a => if name = key then f (encode a) else encode a) a := by
  cases a with
  | none => rfl
  | some a =>
    simp only [optionMember, List.map_cons, List.map_nil]
    split_ifs <;> rfl

theorem filter_textMember (key name : String) (h : name ≠ key) (s : String) :
    (textMember name s).filter (fun m => m.1 ≠ key) = textMember name s := by
  by_cases hs : s = "" <;> simp [textMember, memberIf, hs, h]

namespace Numberless

theorem dropMember {j : Json} (h : j.Numberless) (key : String) :
    (j.dropMember key).Numberless := by
  cases h with
  | obj h => exact .obj fun m hm => h m (List.mem_filter.mp hm).1
  | null => exact .null
  | bool b => exact .bool b
  | str s => exact .str s
  | arr h => exact .arr h

theorem mapMember {j : Json} (h : j.Numberless) (key : String) {f : Json → Json}
    (hf : ∀ value : Json, value.Numberless → (f value).Numberless) :
    (j.mapMember key f).Numberless := by
  cases h with
  | obj h =>
    refine .obj fun edited hedited => ?_
    obtain ⟨m, hm, rfl⟩ := List.mem_map.mp hedited
    split_ifs
    · exact hf _ (h m hm)
    · exact h m hm
  | null => exact .null
  | bool b => exact .bool b
  | str s => exact .str s
  | arr h => exact .arr h

end Numberless

/-- Members whose values hold no numbers. -/
def NumberlessMembers (members : List (String × Json)) : Prop := ∀ m ∈ members, m.2.Numberless

namespace NumberlessMembers

theorem single (key : String) {value : Json} (h : value.Numberless) :
    NumberlessMembers [(key, value)] := by
  intro m hm
  rw [List.mem_singleton.mp hm]
  exact h

theorem append {ms ms' : List (String × Json)} (h : NumberlessMembers ms)
    (h' : NumberlessMembers ms') : NumberlessMembers (ms ++ ms') :=
  List.forall_mem_append.mpr ⟨h, h'⟩

theorem textMember (key s : String) : NumberlessMembers (textMember key s) := by
  intro m hm
  simp only [Json.textMember, memberIf] at hm
  split_ifs at hm with h
  · exact single key (.str s) m hm
  · cases hm

theorem optionMember (key : String) {encode : α → Json} (h : ∀ a, (encode a).Numberless)
    (a : Option α) : NumberlessMembers (optionMember key encode a) := by
  cases a with
  | none => exact fun _ hm => nomatch hm
  | some a => exact single key (h a)

end NumberlessMembers
end ControlPlane.Json
