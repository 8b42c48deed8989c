import ControlPlane.Proofs.Lifecycle
import ControlPlane.Proofs.Upsert.Store

/-!
What is done to objects that are put in their place: with a provider, which knows of an object what
it returned for it last, and in a store, which holds a state for an object or none.
-/
namespace ControlPlane

namespace Upsert

/-- What is done to an object. The state that it has is the one that was returned for it last. -/
inductive Act (S : Type) where
  | create (config : S)
  | update (proposed : S)
  | read
  | destroy

/-- The states that were returned last for the objects that exist. -/
abbrev Store := (o : Object) → Option o.State

namespace Store

def empty : Store := fun _ => none

def set (m : Store) (o : Object) (state : Option o.State) : Store := Function.update m o state

end Store

/-- An action on an object. -/
structure Action where
  object : Object
  act : Act object.State

/-- What an action gives back: the state of its object, or null if there is none. -/
abbrev Answer := (kind : UpsertKind) × Field kind.State

/-- What is told of an object, by what is known of it. -/
def entry {S : Type} (held : Option S) : Field S := held.elim .null .known

theorem known?_entry {S : Type} (held : Option S) : (entry held).known? = held := by
  cases held <;> rfl

namespace Act
variable {S : Type} [DecidableEq S]

/-- The state that is read and destroyed. An object that is not known is imported by its name. -/
def current (r : Resource S) (name : String) (last : Option S) : Except Diagnostic (Managed S) :=
  match last with
  | some s => .ok { state := .known s }
  | none => r.importObject name

/-- Plans and takes the steps of an action. -/
def run (r : Resource S) (k : Connection) (name : String) (last : Option S) :
    Act S → Step (Field S)
  | .create config => do
    let object ← r.createObject (some k) (r.planCreate (.known config))
    return object.state
  | .update proposed => do
    let object ← r.updateObject (some k) (r.planUpdate (entry last) (.known proposed) .null).1
    return object.state
  | .read => do
    let object ← liftExcept (current r name last)
    let object ← r.readObject (some k) object
    return object.state
  | .destroy => do
    let object ← liftExcept (current r name last)
    r.destroyObject (some k) object.state
    return .null

variable {r : Resource S} {k : Connection} {name : String} {last : Option S}
  {session session' : Session} {object object' : Managed S}

theorem run_create {config : S}
    (h : r.createObject (some k) (r.planCreate (.known config)) session = .ok object session') :
    (create config).run r k name last session = .ok object.state session' :=
  Resource.bind_eq_ok_iff.mpr ⟨object, session', h, rfl⟩

theorem run_update {proposed : S}
    (h : r.updateObject (some k) (r.planUpdate (entry last) (.known proposed) .null).1 session =
      .ok object session') :
    (update proposed).run r k name last session = .ok object.state session' :=
  Resource.bind_eq_ok_iff.mpr ⟨object, session', h, rfl⟩

theorem run_read (hcurrent : current r name last = .ok object)
    (h : r.readObject (some k) object session = .ok object' session') :
    read.run r k name last session = .ok object'.state session' := by
  have hlift : (liftExcept (current r name last) : Step _) session = .ok object session := by
    rw [hcurrent]
    rfl
  exact Resource.bind_eq_ok_iff.mpr
    ⟨object, session, hlift, Resource.bind_eq_ok_iff.mpr ⟨object', session', h, rfl⟩⟩

theorem run_destroy (hcurrent : current r name last = .ok object)
    (h : r.destroyObject (some k) object.state session = .ok () session') :
    destroy.run r k name last session = .ok .null session' := by
  have hlift : (liftExcept (current r name last) : Step _) session = .ok object session := by
    rw [hcurrent]
    rfl
  exact Resource.bind_eq_ok_iff.mpr
    ⟨object, session, hlift, Resource.bind_eq_ok_iff.mpr ⟨(), session', h, rfl⟩⟩

/-- What an action makes of the entry of its object. -/
def apply (r : Resource S) (held : Option S) : Act S → Option S
  | .create config => some (r.markComputed (r.applyDefaults config))
  | .update proposed => some (r.applyDefaults proposed)
  | .read => held
  | .destroy => none

end Act

/-- The actions that make sense for an object. A configuration is canonical and names the object,
and an update carries the ID over and can be made in place. -/
def Act.Allowed {o : Object} (last : Option o.State) : Act o.State → Prop
  | .create config => o.kind.Canonical config ∧ o.kind.key config = .known o.name
  | .update proposed => o.kind.Canonical proposed ∧ ∃ prior, last = some prior ∧
      o.kind.id proposed = o.kind.id prior ∧
      (o.kind.resource.planUpdate (.known prior) (.known proposed) .null).2 = []
  | .read | .destroy => True

/-- A session, and what was returned in it. -/
structure World where
  session : Session
  last : Store

namespace World

def next (k : Connection) (w : World) (a : Action) : Except Diagnostic (World × Answer) :=
  match a.act.run a.object.kind.resource k a.object.name (w.last a.object) w.session with
  | .ok state session => .ok (⟨session, w.last.set a.object state.known?⟩, ⟨a.object.kind, state⟩)
  | .error d _ => .error d

/-- Takes actions in turn, up to the first that fails. -/
def run (k : Connection) : World → List Action → Except Diagnostic (World × List Answer)
  | w, [] => .ok (w, [])
  | w, a :: as => do
    let (w, answer) ← w.next k a
    let (w, answers) ← w.run k as
    return (w, answer :: answers)

/-- Each action makes sense after what the ones before it gave back. -/
def Legal (k : Connection) : World → List Action → Prop
  | _, [] => True
  | w, a :: as => a.object.IsPlain ∧ a.act.Allowed (w.last a.object) ∧
      ∀ w' answer, w.next k a = .ok (w', answer) → w'.Legal k as

end World

namespace Store

def next (m : Store) (a : Action) : Store :=
  m.set a.object (a.act.apply a.object.kind.resource (m a.object))

/-- Each action makes sense after the ones before it. -/
def Legal : Store → List Action → Prop
  | _, [] => True
  | m, a :: as => a.object.IsPlain ∧ a.act.Allowed (m a.object) ∧ (m.next a).Legal as

def answer (m : Store) (o : Object) : Answer := ⟨o.kind, entry (m o)⟩

/-- The store after actions, with what it holds of the object of each action after it. -/
def run : Store → List Action → Store × List Answer
  | m, [] => (m, [])
  | m, a :: as => (((m.next a).run as).1, (m.next a).answer a.object :: ((m.next a).run as).2)

end Store

/-- What is put for a state, if it can be put. -/
def Object.body? (o : Object) (s : o.State) : Option Json := (o.kind.body s).toOption

end Upsert

open Upsert (Object Act Store World)

namespace Connection

/-- A control plane that keeps the bodies of objects. It tells a body that it holds as it was put,
up to the order of members, and answers that nothing is found where it holds none. -/
structure KeepsBodies (k : Connection) (valid : Token → Prop) : Prop where
  put {o : Object} {target : String} {token : Token} (ho : o.IsPlain)
    (ht : Url.target? (k.client.url o.path) [] = some target) (hv : valid token)
    (log : List Http.Request) (body : Json) :
    ∃ status text, k.server log (authorized token .put target (.json body)) =
      .complete status text ∧ status.isSuccess
  get {o : Object} {target : String} {token : Token} (ho : o.IsPlain)
    (ht : Url.target? (k.client.url o.path) [] = some target) (hv : valid token)
    {log : List Http.Request} {s : o.State} {body : Json} (hs : o.kind.body s = .ok body)
    (hheld : Http.heldAt target log = some body) :
    ∃ status text, k.server log (authorized token .get target .none) = .complete status text ∧
      status.isSuccess ∧ ∃ told, Json.parse? text = some told ∧ (o.kind.wrap body).Same told
  delete {o : Object} {target : String} {token : Token} (ho : o.IsPlain)
    (ht : Url.target? (k.client.url o.path) [] = some target) (hv : valid token)
    {log : List Http.Request} (hheld : (Http.heldAt target log).isSome) :
    ∃ status text, k.server log (authorized token .delete target .none) =
      .complete status text ∧ status.isSuccess
  missing {o : Object} {target : String} {token : Token} (ho : o.IsPlain)
    (ht : Url.target? (k.client.url o.path) [] = some target) (hv : valid token)
    {log : List Http.Request} (hheld : Http.heldAt target log = none) {method : Http.Method}
    (hm : method = .get ∨ method = .delete) :
    ∃ text, k.server log (authorized token method target .none) = .complete .notFound text

/-- The control plane holds the bodies of the states in a store, and none for other objects. -/
def Holds (k : Connection) (session : Session) (m : Store) : Prop :=
  ∀ (o : Object) (target : String), o.IsPlain →
    Url.target? (k.client.url o.path) [] = some target →
    Http.heldAt target session.log = (m o).bind o.body?

end Connection
end ControlPlane
