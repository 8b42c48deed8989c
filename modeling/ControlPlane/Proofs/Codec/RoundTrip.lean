import ControlPlane.Proofs.Codec
import ControlPlane.Proofs.Codec.Kinds
import ControlPlane.Proofs.Wire

/-!
Objects that are written and read. What is read back is all that was written, so that two objects
are only sent alike when they do not differ in anything that is sent.
-/
namespace ControlPlane

/-- What is written for a value is read back as what is kept of the value, in whatever order the
members come. Nothing else of the value makes a difference to what is written. -/
structure Json.ReadsBack {α : Type} (encode : α → Json) (decode? : Json → Option α)
    (kept : α → α) : Prop where
  reads (a : α) {told : Json} (h : (encode a).Same told) : decode? told = some (kept a)
  same_iff (a b : α) : (encode a).Same (encode b) ↔ kept a = kept b

namespace Json.ReadsBack
variable {α : Type} {encode : α → Json} {decode? : Json → Option α} {kept : α → α}

theorem of_unordered (hdecode : Unordered decode?)
    (hround : ∀ a, decode? (encode a) = some (kept a)) (hkept : ∀ a, encode (kept a) = encode a) :
    ReadsBack encode decode? kept where
  reads a told h := by
    rw [← hdecode _ _ h]
    exact hround a
  same_iff a b := by
    constructor
    · intro h
      have hread : some (kept a) = some (kept b) :=
        calc some (kept a) = decode? (encode a) := (hround a).symm
          _ = decode? (encode b) := hdecode _ _ h
          _ = some (kept b) := hround b
      exact Option.some.inj hread
    · intro h
      have hencode : encode a = encode b := by rw [← hkept a, h, hkept b]
      rw [hencode]
      exact .refl _

theorem of_all (hdecode : Unordered decode?) (hround : ∀ a, decode? (encode a) = some a) :
    ReadsBack encode decode? id :=
  of_unordered hdecode hround fun _ => rfl

theorem only? (h : ReadsBack encode decode? kept) (hdecode : Unordered decode?)
    (hkept : ∀ a, encode (kept a) = encode a) (name : String) :
    ReadsBack (fun a => .obj [(name, encode a)]) (Json.only? name decode?) kept :=
  of_unordered (hdecode.only? name) (fun a => by rw [Json.only?_obj, h.reads a (.refl _)])
    fun a => by rw [hkept]

end Json.ReadsBack

theorem Repository.readsBack :
    Json.ReadsBack Repository.toJson Repository.ofJson? fun r => { r with id := "" } :=
  .of_unordered Repository.ofJson?_unordered Repository.ofJson?_toJson fun _ => rfl

theorem Sidecar.readsBack :
    Json.ReadsBack Sidecar.toJson Sidecar.ofJson? fun s => { s with id := "" } :=
  .of_unordered Sidecar.ofJson?_unordered Sidecar.ofJson?_toJson fun _ => rfl

theorem Listener.readsBack :
    Json.ReadsBack Listener.toJson Listener.ofJson? fun l => { l with id := "" } :=
  .of_unordered Listener.ofJson?_unordered Listener.ofJson?_toJson fun _ => rfl

theorem Binding.readsBack :
    Json.ReadsBack Binding.envelope Binding.ofEnvelope? fun b => { b with id := "" } :=
  .of_unordered Binding.ofEnvelope?_unordered Binding.ofEnvelope?_envelope fun _ => rfl

theorem UserAccount.readsBack : Json.ReadsBack UserAccount.toJson UserAccount.ofJson? id :=
  .of_all UserAccount.ofJson?_unordered UserAccount.ofJson?_toJson

theorem AuthSettings.readsBack : Json.ReadsBack AuthSettings.toJson AuthSettings.ofJson? id :=
  .of_all AuthSettings.ofJson?_unordered AuthSettings.ofJson?_toJson

theorem DataLabel.readsBack :
    Json.ReadsBack DataLabel.toJson DataLabel.ofJson? fun d =>
      { d with description := some (d.description.getD "") } :=
  .of_unordered DataLabel.ofJson?_unordered DataLabel.ofJson?_toJson fun _ => rfl

theorem Policy.readsBack :
    Json.ReadsBack Policy.toJson Policy.ofJson? fun p =>
      { p with about := { p.about with id := "" } } :=
  .of_unordered Policy.ofJson?_unordered Policy.ofJson?_toJson fun _ => rfl

/-- An ID is told by the control plane and never sent. All else of an object is read back. -/
theorem objects_read_back :
    Json.ReadsBack Repository.toJson Repository.ofJson? (fun r => { r with id := "" }) ∧
    Json.ReadsBack Sidecar.toJson Sidecar.ofJson? (fun s => { s with id := "" }) ∧
    Json.ReadsBack Listener.toJson Listener.ofJson? (fun l => { l with id := "" }) ∧
    Json.ReadsBack Binding.envelope Binding.ofEnvelope? (fun b => { b with id := "" }) ∧
    Json.ReadsBack UserAccount.toJson UserAccount.ofJson? id ∧
    Json.ReadsBack AuthSettings.toJson AuthSettings.ofJson? id ∧
    Json.ReadsBack DataLabel.Rule.toJson DataLabel.Rule.ofJson? id ∧
    Json.ReadsBack Policy.toJson Policy.ofJson?
      (fun p => { p with about := { p.about with id := "" } }) ∧
    Json.ReadsBack Logging.toJson Logging.ofJson? (fun l => { l with id := "" }) ∧
    Json.ReadsBack Webhook.toJson Webhook.ofJson? id ∧
    Json.ReadsBack Datadog.toJson Datadog.ofJson? id ∧
    Json.ReadsBack ServiceAccount.toJson ServiceAccount.ofJson? id :=
  ⟨Repository.readsBack, Sidecar.readsBack, Listener.readsBack, Binding.readsBack,
    UserAccount.readsBack, AuthSettings.readsBack,
    .of_all DataLabel.Rule.ofJson?_unordered DataLabel.Rule.ofJson?_toJson,
    Policy.readsBack,
    .of_unordered Logging.ofJson?_unordered Logging.ofJson?_toJson fun _ => rfl,
    .of_all Webhook.ofJson?_unordered Webhook.ofJson?_toJson,
    .of_all Datadog.ofJson?_unordered Datadog.ofJson?_toJson,
    .of_all ServiceAccount.ofJson?_unordered ServiceAccount.ofJson?_toJson⟩

namespace Wire
variable {S W : Type} {r : Resource S} {w : Wire r W} {read? : Json → Option W} {kept sent : W → W}

/-- The JSON of an update that follows a read is itself read as what the reply held, up to `kept`,
in whatever order its members are sent. -/
def SendsBack (w : Wire r W) (read? : Json → Option W) (kept : W → W) : Prop :=
  ∀ (a : W) (s : S), ∃ body, w.update.payload (w.refresh a s) = .ok (.json body) ∧
    ∀ told, body.Same told → read? told = some (kept a)

theorem sendsBack_of_request
    (hrequest : ∀ (a : W) (s : S), w.request (w.refresh a s) = .ok (sent a))
    (hreads : Json.ReadsBack w.encode read? kept) (hkept : ∀ a, kept (sent a) = kept a) :
    w.SendsBack read? kept := by
  intro a s
  refine ⟨w.encode (sent a), w.payload_of_request (hrequest a s), fun told hsame => ?_⟩
  rw [hreads.reads (sent a) hsame, hkept]

end Wire

/-- The object that a read was told of is read back from the JSON of the update that follows. -/
theorem updates_send_back_what_was_read :
    Repository.wire.SendsBack Repository.ofJson? (fun r => { r with id := "" }) ∧
    Sidecar.wire.SendsBack Sidecar.ofJson? (fun c => { c with id := "" }) ∧
    Listener.wire.SendsBack (Json.only? "listener" Listener.ofJson?)
      (fun l => { l with id := "" }) ∧
    Binding.wire.SendsBack Binding.ofEnvelope? (fun b => { b with id := "" }) ∧
    UserAccount.wire.SendsBack UserAccount.ofJson? id ∧
    AuthSettings.wire.SendsBack AuthSettings.ofJson? id ∧
    DataLabel.wire.SendsBack DataLabel.ofJson?
      (fun d => { d with description := some (d.description.getD "") }) ∧
    Policy.wire.SendsBack Policy.ofJson?
      (fun p => { p with about := { p.about with id := "" } }) :=
  ⟨Wire.sendsBack_of_request Repository.ofState_refresh Repository.readsBack fun _ => rfl,
    Wire.sendsBack_of_request Sidecar.ofState_refresh Sidecar.readsBack fun _ => rfl,
    Wire.sendsBack_of_request Listener.ofState_refresh
      (Listener.readsBack.only? Listener.ofJson?_unordered (fun _ => rfl) "listener")
      fun _ => rfl,
    Wire.sendsBack_of_request Binding.ofState_refresh Binding.readsBack fun _ => rfl,
    Wire.sendsBack_of_request UserAccount.ofState_refresh UserAccount.readsBack fun _ => rfl,
    Wire.sendsBack_of_request AuthSettings.ofState_refresh AuthSettings.readsBack fun _ => rfl,
    Wire.sendsBack_of_request DataLabel.ofState_refresh DataLabel.readsBack fun _ => rfl,
    Wire.sendsBack_of_request Policy.ofState_refresh Policy.readsBack fun _ => rfl⟩

end ControlPlane
