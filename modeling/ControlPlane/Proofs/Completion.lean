import ControlPlane.Value
import Mathlib

/-!
What values can turn into. A configuration is checked before all of it is known, and what is not
known yet can still turn out to be anything.
-/
namespace ControlPlane
open Exchange (toValue)

namespace Value

/-- What a value can turn into when all that is not known yet in it is settled. -/
inductive TurnsInto : Value → Value → Prop
  | unknown (v : Value) : TurnsInto .unknown v
  | null : TurnsInto .null .null
  | bool (b : Bool) : TurnsInto (.bool b) (.bool b)
  | number (n : Int) : TurnsInto (.number n) (.number n)
  | text (s : String) : TurnsInto (.text s) (.text s)
  | list {vs ws : List Value} (h : List.Forall₂ TurnsInto vs ws) : TurnsInto (.list vs) (.list ws)
  | object {ms ns : List (String × Value)} (hk : ms.map Prod.fst = ns.map Prod.fst)
      (hv : List.Forall₂ TurnsInto (ms.map Prod.snd) (ns.map Prod.snd)) :
      TurnsInto (.object ms) (.object ns)

theorem TurnsInto.eq_null {v : Value} (h : TurnsInto .null v) : v = .null := by
  cases h
  rfl

theorem TurnsInto.eq_unknown {v : Value} (h : TurnsInto v .unknown) : v = .unknown := by
  cases h
  rfl

theorem TurnsInto.eq_of_null {v : Value} (h : TurnsInto v .null) : v = .unknown ∨ v = .null := by
  cases h with
  | unknown => exact .inl rfl
  | null => exact .inr rfl

theorem lookup_turnsInto {ms ns : List (String × Value)} (hk : ms.map Prod.fst = ns.map Prod.fst)
    (hv : List.Forall₂ TurnsInto (ms.map Prod.snd) (ns.map Prod.snd)) (name : String) :
    Option.Rel TurnsInto (ms.lookup name) (ns.lookup name) := by
  induction ms generalizing ns with
  | nil =>
    obtain rfl : ns = [] := by simpa using hk.symm
    exact .none
  | cons m ms ih =>
    cases ns with
    | nil => simp at hk
    | cons n ns =>
      simp only [List.map_cons, List.cons.injEq, List.forall₂_cons] at hk hv
      rw [List.lookup_cons, List.lookup_cons, hk.1]
      cases name == n.1 with
      | true => exact .some hv.1
      | false => exact ih hk.2 hv.2

theorem TurnsInto.attribute {ms ns : List (String × Value)}
    (h : TurnsInto (.object ms) (.object ns)) (name : String) {v w : Value}
    (hv : ms.lookup name = some v) (hw : ns.lookup name = some w) : TurnsInto v w := by
  cases h with
  | object hk h =>
    have hrel := lookup_turnsInto hk h name
    rw [hv, hw] at hrel
    cases hrel with
    | some h => exact h

theorem forall₂_of_turnsInto_list {α : Type} [Exchange α] {as bs : List α}
    (h : (toValue as).TurnsInto (toValue bs)) :
    List.Forall₂ (fun a b => (toValue a).TurnsInto (toValue b)) as bs := by
  have hlist : TurnsInto (.list (as.map toValue)) (.list (bs.map toValue)) := h
  cases hlist with
  | list h =>
    rw [List.forall₂_map_left_iff, List.forall₂_map_right_iff] at h
    exact h

end Value

/-- The values of these types are known as such. -/
class Exchange.Definite (α : Type) [Exchange α] : Prop where
  ne_null (a : α) : toValue a ≠ .null
  ne_unknown (a : α) : toValue a ≠ .unknown

namespace Exchange.Definite
variable {α : Type}

instance : Definite Bool := ⟨fun _ => nofun, fun _ => nofun⟩

instance : Definite Int64 := ⟨fun _ => nofun, fun _ => nofun⟩

instance : Definite String := ⟨fun _ => nofun, fun _ => nofun⟩

instance [Exchange α] : Definite (List α) := ⟨fun _ => nofun, fun _ => nofun⟩

theorem of_object [Exchange α] (members : α → List (String × Value))
    (h : ∀ a, toValue a = .object (members a)) : Definite α where
  ne_null a := by
    rw [h]
    nofun
  ne_unknown a := by
    rw [h]
    nofun

end Exchange.Definite

namespace Field
variable {α : Type}

/-- What an attribute can turn into when its value turns out as `r` tells. -/
inductive Settles (r : α → α → Prop) : Field α → Field α → Prop
  | unknown (x : Field α) : Settles r .unknown x
  | null : Settles r .null .null
  | known {a b : α} (h : r a b) : Settles r (.known a) (.known b)

theorem Settles.mono {r r' : α → α → Prop} (hr : ∀ a b, r a b → r' a b) {x y : Field α}
    (h : x.Settles r y) : x.Settles r' y := by
  cases h with
  | unknown => exact .unknown _
  | null => exact .null
  | known h => exact .known (hr _ _ h)

theorem Settles.isKnown {r : α → α → Prop} {x y : Field α} (h : x.Settles r y) :
    x.isKnown → y.isKnown := by
  cases h with
  | unknown | null => nofun
  | known => exact id

theorem Settles.isNull {r : α → α → Prop} {x y : Field α} (h : x.Settles r y) :
    x.isNull → y.isNull := by
  cases h with
  | unknown | known => nofun
  | null => exact id

theorem settles_of_turnsInto [Exchange α] [Exchange.Definite α] {x y : Field α}
    (h : (toValue x).TurnsInto (toValue y)) :
    x.Settles (fun a b => (toValue a).TurnsInto (toValue b)) y := by
  cases x with
  | unknown => exact .unknown y
  | null =>
    have hnull : toValue y = .null := Value.TurnsInto.eq_null h
    cases y with
    | null => exact .null
    | unknown => cases hnull
    | known b => exact absurd hnull (Exchange.Definite.ne_null b)
  | known a =>
    cases y with
    | null =>
      rcases Value.TurnsInto.eq_of_null h with ha | ha
      · exact absurd ha (Exchange.Definite.ne_unknown a)
      · exact absurd ha (Exchange.Definite.ne_null a)
    | unknown => exact absurd (Value.TurnsInto.eq_unknown h) (Exchange.Definite.ne_unknown a)
    | known b => exact .known h

theorem settles_text {x y : Field String} (h : (toValue x).TurnsInto (toValue y)) :
    x.Settles Eq y := by
  refine (settles_of_turnsInto h).mono fun a b hab => ?_
  have htext : Value.TurnsInto (.text a) (.text b) := hab
  cases htext
  rfl

theorem settles_number {x y : Field Int64} (h : (toValue x).TurnsInto (toValue y)) :
    x.Settles Eq y := by
  refine (settles_of_turnsInto h).mono fun m n hmn => ?_
  have hnumber : Value.TurnsInto (.number m.toInt) (.number n.toInt) := hmn
  generalize hm : m.toInt = a, hn : n.toInt = b at hnumber
  cases hnumber
  exact Int64.toInt_inj.mp (hm.trans hn.symm)

theorem settles_flag {x y : Field Bool} (h : (toValue x).TurnsInto (toValue y)) :
    x.Settles Eq y := by
  refine (settles_of_turnsInto h).mono fun a b hab => ?_
  have hflag : Value.TurnsInto (.bool a) (.bool b) := hab
  cases hflag
  rfl

theorem settles_list [Exchange α] {x y : Field (List α)} (h : (toValue x).TurnsInto (toValue y)) :
    x.Settles (List.Forall₂ fun a b => (toValue a).TurnsInto (toValue b)) y :=
  (settles_of_turnsInto h).mono fun _ _ => Value.forall₂_of_turnsInto_list

theorem settles_texts {x y : Field (List (Field String))}
    (h : (toValue x).TurnsInto (toValue y)) : x.Settles (List.Forall₂ (Settles Eq)) y :=
  (settles_list h).mono fun _ _ => List.Forall₂.imp fun _ _ => settles_text

end Field
end ControlPlane
