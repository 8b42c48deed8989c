import ControlPlane.AuthSettings.Resource
import ControlPlane.Binding.Resource
import ControlPlane.DataLabel.Resource
import ControlPlane.Listener.Resource
import ControlPlane.Policy
import ControlPlane.Proofs.Attribute
import ControlPlane.Proofs.Failure
import ControlPlane.Repository.Resource
import ControlPlane.Sidecar.Resource
import ControlPlane.UserAccount.Resource

/-!
What a read takes in and what an update sends. An update that follows a read sends back the object
that the read was told of.
-/
namespace ControlPlane

/-- The two ways of the objects of a resource. The last three fields tie them to its operations. -/
structure Wire {S : Type} (r : Resource S) (W : Type) where
  decode? : Json → Option W
  refresh : W → S → S
  request : S → Except Failure W
  encode : W → Json
  update : Operation S
  reads : r.read.response = some (.of decode? refresh)
  updates : r.update = some update
  sends : update.body = some fun s => (request s).map encode

namespace Wire
variable {S W : Type} {r : Resource S}

theorem payload_of_request (w : Wire r W) {s : S} {a : W} (h : w.request s = .ok a) :
    w.update.payload s = .ok (.json (w.encode a)) := by
  simp [Operation.payload, w.sends, h, Except.map]

/-- Once a reply is taken in, the update asks for what it held, up to `sent`, whatever the state
was before. -/
def Resends (w : Wire r W) (sent : W → W) : Prop :=
  ∀ (a : W) (s : S), w.request (w.refresh a s) = .ok (sent a) ∧
    w.update.payload (w.refresh a s) = .ok (.json (w.encode (sent a)))

theorem Resends.of_request {w : Wire r W} {sent : W → W}
    (h : ∀ (a : W) (s : S), w.request (w.refresh a s) = .ok (sent a)) : w.Resends sent :=
  fun a s => ⟨h a s, w.payload_of_request (h a s)⟩

end Wire

namespace Repository

def wire : Wire resource Repository where
  decode? := Json.only? "repo" ofJson?
  refresh := refresh
  request := ofState
  encode := toJson
  update := _
  reads := rfl
  updates := rfl
  sends := rfl

theorem Node.ofState_toState (n : Node) (prior : Field Bool) :
    Node.ofState (n.toState prior) = n := by
  simp [Node.ofState, Node.toState]

theorem map_ofState_refreshNodes (ns : List Node) (priors : List NodeState) :
    (refreshNodes ns priors).map Node.ofState = ns := by
  induction ns generalizing priors with
  | nil => rfl
  | cons n ns ih => cases priors <;> simp [refreshNodes, Node.ofState_toState, ih]

theorem MongoSettings.ofState_toState (m : MongoSettings) : ofState m.toState = .ok m := by
  simp [ofState, toState]

/-- The ID is the object's own and is not sent. -/
theorem ofState_refresh (r : Repository) (s : State) :
    ofState (refresh r s) = .ok { r with id := "" } := by
  cases hm : r.mongo with
  | none =>
    simp [ofState, refresh, hm, map_ofState_refreshNodes]
  | some m =>
    simp [ofState, refresh, hm, map_ofState_refreshNodes, MongoSettings.ofState_toState]

end Repository

namespace Sidecar

def wire : Wire resource Sidecar where
  decode? := ofJson?
  refresh := refresh
  request := ofState
  encode := toJson
  update := _
  reads := rfl
  updates := rfl
  sends := rfl

theorem ofState_refresh (c : Sidecar) (s : State) :
    ofState (refresh c s) = .ok { c with id := "" } := by
  simp [ofState, refresh]

end Sidecar

namespace Listener

def wire : Wire resource Listener where
  decode? := Json.only? "listenerConfig" ofJson?
  refresh := refresh
  request := ofState
  encode l := .obj [("listener", l.toJson)]
  update := _
  reads := rfl
  updates := rfl
  sends := rfl

theorem ofState_refresh (l : Listener) (s : State) :
    ofState (refresh l s) = .ok { l with id := "" } := by
  simp [ofState, refresh]

end Listener

namespace Binding

def wire : Wire resource Binding where
  decode? := ofEnvelope?
  refresh := refresh
  request := ofState
  encode := envelope
  update := _
  reads := rfl
  updates := rfl
  sends := rfl

theorem Reference.ofState_toState (r : Reference) : ofState r.toState = .ok r := by
  simp [ofState, toState]

theorem mapM_ofState_toState (rs : List Reference) :
    (rs.map Reference.toState).mapM Reference.ofState = .ok rs := by
  induction rs with
  | nil => rfl
  | cons r rs ih => simp [Reference.ofState_toState, ih]

theorem ofState_refresh (b : Binding) (s : State) :
    ofState (refresh b s) = .ok { b with id := "" } := by
  simp only [ofState, refresh, Field.elems_known, mapM_ofState_toState, ok_bind]
  rfl

end Binding

namespace UserAccount

def wire : Wire resource UserAccount where
  decode? := ofJson?
  refresh := refresh
  request := ofState
  encode := toJson
  update := _
  reads := rfl
  updates := rfl
  sends := rfl

theorem AuthScheme.ofState_toState (a : AuthScheme) (priorDynamic : Field Bool) :
    ofState (a.toState priorDynamic) = .ok a := by
  obtain ⟨e, k, m, v⟩ := a
  cases e <;> cases k <;> cases m <;> cases v <;>
    simp [ofState, toState, EnvironmentVariable.ofState, KubernetesSecret.ofState,
      AwsSecret.ofState, Vault.ofState, Vault.toState]

theorem ofState_refresh (u : UserAccount) (s : State) : ofState (refresh u s) = .ok u := by
  simp [ofState, refresh, AuthScheme.ofState_toState]

end UserAccount

namespace AuthSettings

def wire : Wire resource AuthSettings where
  decode? := Json.only? "authInfo" ofJson?
  refresh := refresh
  request := ofState
  encode := toJson
  update := _
  reads := rfl
  updates := rfl
  sends := rfl

theorem ofState_refresh (a : AuthSettings) (s : State) : ofState (refresh a s) = .ok a := by
  simp [ofState, refresh]

end AuthSettings

namespace DataLabel

def wire : Wire resource DataLabel where
  decode? := ofJson?
  refresh := refresh
  request := ofState
  encode := toJson
  update := _
  reads := rfl
  updates := rfl
  sends := rfl

theorem Rule.ofState_toState (r : Rule) : ofState r.toState = .ok r := by
  simp [ofState, toState]

/-- A description that is not told is sent as an empty one, which takes the old one away. -/
theorem ofState_refresh (d : DataLabel) (s : State) :
    ofState (refresh d s) = .ok { d with description := some (d.description.getD "") } := by
  cases hr : d.rule with
  | none => simp [ofState, refresh, hr]
  | some rule => simp [ofState, refresh, hr, Rule.ofState_toState]

end DataLabel

namespace Policy

def wire : Wire resource Policy where
  decode? := ofJson?
  refresh := refresh
  request := ofState
  encode := toJson
  update := _
  reads := rfl
  updates := rfl
  sends := rfl

theorem ofState_refresh (p : Policy) (s : State) :
    ofState (refresh p s) = .ok { p with about := { p.about with id := "" } } := by
  simp [ofState, refresh]

end Policy

/-- To read an object and to apply what was read changes nothing on the control plane. -/
theorem update_resends_what_was_read :
    Repository.wire.Resends (fun r => { r with id := "" }) ∧
    Sidecar.wire.Resends (fun c => { c with id := "" }) ∧
    Listener.wire.Resends (fun l => { l with id := "" }) ∧
    Binding.wire.Resends (fun b => { b with id := "" }) ∧
    UserAccount.wire.Resends id ∧
    AuthSettings.wire.Resends id ∧
    DataLabel.wire.Resends (fun d => { d with description := some (d.description.getD "") }) ∧
    Policy.wire.Resends (fun p => { p with about := { p.about with id := "" } }) :=
  ⟨.of_request Repository.ofState_refresh, .of_request Sidecar.ofState_refresh,
    .of_request Listener.ofState_refresh, .of_request Binding.ofState_refresh,
    .of_request UserAccount.ofState_refresh, .of_request AuthSettings.ofState_refresh,
    .of_request DataLabel.ofState_refresh, .of_request Policy.ofState_refresh⟩

end ControlPlane
