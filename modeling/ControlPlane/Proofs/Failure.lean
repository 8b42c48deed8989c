import ControlPlane.Failure
import Mathlib

/-! Calculations that can fail, taken apart. -/
namespace ControlPlane
variable {ε α β : Type}

@[simp] theorem ok_bind (a : α) (f : α → Except ε β) : (Except.ok a >>= f) = f a := rfl

@[simp] theorem error_bind (e : ε) (f : α → Except ε β) : (Except.error e >>= f) = .error e := rfl

@[simp] theorem pure_eq_ok (a : α) : (pure a : Except ε α) = .ok a := rfl

theorem bind_eq_ok_iff {x : Except ε α} {f : α → Except ε β} {b : β} :
    x >>= f = .ok b ↔ ∃ a, x = .ok a ∧ f a = .ok b := by
  cases x <;> simp

theorem map_eq_ok_iff {x : Except ε α} {f : α → β} {b : β} :
    x.map f = .ok b ↔ ∃ a, x = .ok a ∧ f a = b := by
  cases x <;> simp [Except.map]

theorem mapM_option_eq_ok_iff {f : α → Except ε β} {a : Option α} {b : Option β} :
    a.mapM f = .ok b ↔
      a = none ∧ b = none ∨ ∃ x y, a = some x ∧ b = some y ∧ f x = .ok y := by
  cases a with
  | none =>
    have hnone : (none : Option α).mapM f = .ok none := rfl
    simp [hnone, eq_comm]
  | some x =>
    have hsome : (some x).mapM f = (f x).map some := rfl
    simp only [hsome, map_eq_ok_iff, reduceCtorEq, false_and, false_or, Option.some.injEq]
    constructor
    · rintro ⟨y, hy, rfl⟩
      exact ⟨x, y, rfl, rfl, hy⟩
    · rintro ⟨_, y, rfl, rfl, hy⟩
      exact ⟨y, hy, rfl⟩

/-- A value that is made in view of the block that it comes from. -/
theorem map_eq_of_mapM_self {γ : Type} {f : α → Except ε β} {g : Option α → β → γ} {h : α → γ}
    (hfg : ∀ a b, f a = .ok b → g (some a) b = h a) {a : Option α} {b : Option β}
    (hb : a.mapM f = .ok b) : b.map (g a) = a.map h := by
  cases a with
  | none =>
    cases hb
    rfl
  | some a =>
    have hmap : (f a).map some = .ok b := hb
    obtain ⟨b, hfa, rfl⟩ := map_eq_ok_iff.mp hmap
    rw [Option.map_some, Option.map_some, hfg a b hfa]

/-- Values that are made of the same block by way of what is calculated from it. -/
theorem map_eq_of_mapM_option {γ : Type} {f : α → Except ε β} {g : β → γ} {h : α → γ}
    (hfg : ∀ a b, f a = .ok b → g b = h a) {a : Option α} {b : Option β} (hb : a.mapM f = .ok b) :
    b.map g = a.map h :=
  map_eq_of_mapM_self (g := fun _ => g) hfg hb

theorem mapM_option_map {f : α → Except ε β} {g : α → α} {h : β → β}
    (hfg : ∀ a, f (g a) = (f a).map h) (a : Option α) :
    (a.map g).mapM f = (a.mapM f).map (Option.map h) := by
  cases a with
  | none => rfl
  | some a =>
    change (f (g a)).map some = ((f a).map some).map (Option.map h)
    rw [hfg]
    cases f a <;> rfl

theorem map_eq_of_mapM_list {γ : Type} {f : α → Except ε β} {g : β → γ} {h : α → γ}
    (hfg : ∀ a b, f a = .ok b → g b = h a) {as : List α} {bs : List β} (hbs : as.mapM f = .ok bs) :
    bs.map g = as.map h := by
  induction as generalizing bs with
  | nil =>
    cases hbs
    rfl
  | cons a as ih =>
    rw [List.mapM_cons] at hbs
    obtain ⟨b, hb, hbs⟩ := bind_eq_ok_iff.mp hbs
    obtain ⟨rest, hrest, hbs⟩ := bind_eq_ok_iff.mp hbs
    cases hbs
    rw [List.map_cons, List.map_cons, hfg a b hb, ih hrest]

namespace Field

@[simp] theorem require_known (a : α) (name : String) : (known a).require name = .ok a := rfl

theorem require_eq_ok_iff {x : Field α} {name : String} {a : α} :
    x.require name = .ok a ↔ x = .known a := by
  cases x <;> simp [require]

theorem require_bind_eq_ok_iff {x : Field α} {name : String} {f : α → Except Failure β} {b : β} :
    x.require name >>= f = .ok b ↔ ∃ a, x = .known a ∧ f a = .ok b := by
  simp only [bind_eq_ok_iff, require_eq_ok_iff]

end Field

/-- A calculation that fails for want of an attribute only. -/
def NeedsAttributes (x : Except Failure α) : Prop :=
  ∀ failure, x = .error failure → ∃ name, failure = .missingAttribute name

namespace NeedsAttributes

theorem ok (a : α) : NeedsAttributes (.ok a) := by
  intro failure h
  cases h

theorem require (x : Field α) (name : String) : NeedsAttributes (x.require name) := by
  intro failure h
  cases x with
  | known a => cases h
  | null | unknown =>
    cases h
    exact ⟨name, rfl⟩

theorem bind {x : Except Failure α} {f : α → Except Failure β} (hx : NeedsAttributes x)
    (hf : ∀ a, NeedsAttributes (f a)) : NeedsAttributes (x >>= f) := by
  intro failure h
  cases x with
  | error e =>
    cases h
    exact hx failure rfl
  | ok a => exact hf a failure h

theorem map {x : Except Failure α} (hx : NeedsAttributes x) (f : α → β) :
    NeedsAttributes (x.map f) := by
  intro failure h
  cases x with
  | error e =>
    cases h
    exact hx failure rfl
  | ok a => cases h

theorem mapM_option {f : α → Except Failure β} (hf : ∀ a, NeedsAttributes (f a)) (a : Option α) :
    NeedsAttributes (a.mapM f) := by
  cases a with
  | none => exact .ok none
  | some a => exact (hf a).map some

theorem mapM_list {f : α → Except Failure β} (hf : ∀ a, NeedsAttributes (f a)) (as : List α) :
    NeedsAttributes (as.mapM f) := by
  induction as with
  | nil => exact .ok []
  | cons a as ih =>
    rw [List.mapM_cons]
    exact .bind (hf a) fun b => .bind ih fun bs => .ok (b :: bs)

end NeedsAttributes
end ControlPlane
