import ControlPlane.Proofs.Alike.Operation
import ControlPlane.Proofs.Atomicity

/-!
Secrets under a veil. Operations to which it makes no difference whether secrets are veiled do not
tell apart states that differ in secrets only.
-/
namespace ControlPlane

open Http (Likeness)

/-- The payload with its JSON edited. -/
def Http.Payload.mapJson (f : Json → Json) : Http.Payload → Http.Payload
  | .json j => .json (f j)
  | payload => payload

/-- What hides the secrets of an object in its state, and in the JSON that is sent of it. -/
structure Veil (S : Type) where
  state : S → S := id
  json : Json → Json := id

namespace Veil
variable {S α : Type} {v : Veil S} {s s' : S}

/-- The states differ in nothing but secrets. -/
def Same (v : Veil S) (s s' : S) : Prop := v.state s = v.state s'

/-- The requests differ in nothing but secrets. -/
def likeness (v : Veil S) : Likeness where
  rel r r' := r'.bare = r.bare ∧ r'.payload.mapJson v.json = r.payload.mapJson v.json
  refl _ := ⟨rfl, rfl⟩
  bare_eq h := h.1

theorem Same.eq_of_veiled (h : v.Same s s') (f : S → α) (hf : ∀ s, f (v.state s) = f s) :
    f s' = f s := by
  have hveiled : v.state s = v.state s' := h
  rw [← hf s, hveiled, hf]

/-- Secrets are written over or kept, and nothing else is made of them. -/
def Passes (v : Veil S) (response : Response S) : Prop :=
  ∀ j, ∀ write ∈ response j, ∀ s s', v.Same s s' → WriteAlike v.Same (write s) (write s')

theorem Passes.of {R : Type} (read : Json → Option R) {write : R → S → S}
    (hwrite : ∀ a s, v.state (write a (v.state s)) = v.state (write a s)) :
    v.Passes (.of read write) := by
  intro j _ hj s s' h
  obtain ⟨a, -, rfl⟩ := Option.map_eq_some_iff.mp hj
  exact .ok (h.eq_of_veiled (fun s => v.state (write a s)) (hwrite a)).symm

theorem payload_alike {op : Operation S}
    (hbody : ∀ body ∈ op.body, ∀ s, (body (v.state s)).map v.json = (body s).map v.json)
    (h : v.Same s s') : Except.Alike v.likeness.Carries (op.payload s) (op.payload s') := by
  unfold Operation.payload
  cases hop : op.body with
  | none => exact .ok (.refl _ _)
  | some body =>
    have hsent := h.eq_of_veiled (fun s => (body s).map v.json) (hbody body hop)
    simp only at hsent ⊢
    generalize body s = sent, body s' = sent' at hsent ⊢
    cases sent with
    | error failure =>
      cases sent' with
      | error _ =>
        cases hsent
        exact .error failure
      | ok j' => cases hsent
    | ok j =>
      obtain ⟨j', rfl, hj⟩ := map_eq_ok_iff.mp hsent
      exact .ok fun r => ⟨rfl, congrArg Http.Payload.json hj⟩

theorem respects {op : Operation S} (url : ∀ s base, op.url (v.state s) base = op.url s base)
    (body : ∀ body ∈ op.body, ∀ s, (body (v.state s)).map v.json = (body s).map v.json)
    (response : ∀ response ∈ op.response, v.Passes response) : op.Respects v.likeness v.Same :=
  .of_writes (fun _ _ h base => h.eq_of_veiled (op.url · base) fun s => url s base)
    (fun _ _ h => payload_alike body h) response

/-- The secrets of the objects of a resource make no difference to what is told of them and to where
their requests go. -/
structure Covers (v : Veil S) (r : Resource S) : Prop where
  validate : ∀ s, r.validate (v.state s) = r.validate s
  operations : ∀ op ∈ r.operations, op.Respects v.likeness v.Same

theorem Covers.of_parts {C R : Type} {r : Resource S}
    {collectionUrl objectUrl : S → String → Except Failure String} {body : S → Except Failure Json}
    {made? : Json → Option C} {make : C → S → S} {read? : Json → Option R} {refresh : R → S → S}
    (validate : ∀ s, r.validate (v.state s) = r.validate s)
    (collectionUrl_veiled : ∀ s base, collectionUrl (v.state s) base = collectionUrl s base)
    (objectUrl_veiled : ∀ s base, objectUrl (v.state s) base = objectUrl s base)
    (body_veiled : ∀ s, (body (v.state s)).map v.json = (body s).map v.json)
    (make_veiled : ∀ a s, v.state (make a (v.state s)) = v.state (make a s))
    (refresh_veiled : ∀ a s, v.state (refresh a (v.state s)) = v.state (refresh a s))
    (create : r.create.url = collectionUrl ∧ r.create.body = some body ∧
      r.create.response = some (.of made? make))
    (read : r.read.url = objectUrl ∧ r.read.body = none ∧
      r.read.response = some (.of read? refresh))
    (delete : r.delete.url = objectUrl ∧ r.delete.body = none ∧ r.delete.response = none)
    (update : ∀ op ∈ r.update, op.url = objectUrl ∧ op.body = some body ∧ op.response = none) :
    v.Covers r := by
  refine ⟨validate, ?_⟩
  simp only [Resource.operations, Resource.onObject, List.forall_mem_cons, Option.mem_toList]
  refine ⟨respects ?_ ?_ ?_, respects ?_ ?_ ?_, respects ?_ ?_ ?_,
    fun op hop => respects ?_ ?_ ?_⟩
  · rw [create.1]
    exact collectionUrl_veiled
  · rw [create.2.1]
    rintro _ ⟨⟩
    exact body_veiled
  · rw [create.2.2]
    rintro _ ⟨⟩
    exact .of _ make_veiled
  · rw [read.1]
    exact objectUrl_veiled
  · simp [read.2.1]
  · rw [read.2.2]
    rintro _ ⟨⟩
    exact .of _ refresh_veiled
  · rw [delete.1]
    exact objectUrl_veiled
  · simp [delete.2.1]
  · simp [delete.2.2]
  · rw [(update op hop).1]
    exact objectUrl_veiled
  · rw [(update op hop).2.1]
    rintro _ ⟨⟩
    exact body_veiled
  · simp [(update op hop).2.2]

theorem Covers.of_no_secrets (r : Resource S) : ({} : Veil S).Covers r where
  validate _ := rfl
  operations op _ := op.respects_eq _

end Veil

end ControlPlane
