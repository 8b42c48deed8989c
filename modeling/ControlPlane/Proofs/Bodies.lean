import ControlPlane.Proofs.Atomicity
import ControlPlane.Proofs.Json.Record

/-! The bodies that are sent of an object, and what they hold. -/
namespace ControlPlane

namespace Json

/-- A member of an object. -/
def member? (j : Json) (name : String) : Option Json :=
  match j with
  | .obj members => members.lookup name
  | _ => none

/-- Of the members with these names, there is exactly one. -/
def HoldsOneOf (names : List String) (j : Json) : Prop :=
  ∃! name, name ∈ names ∧ (j.member? name).isSome

theorem holdsOneOf_iff {names : List String} (hnames : names.Nodup) {j : Json} :
    j.HoldsOneOf names ↔ (names.filter fun name => (j.member? name).isSome).length = 1 := by
  have hmem (name : String) : name ∈ names.filter (fun name => (j.member? name).isSome) ↔
      name ∈ names ∧ (j.member? name).isSome := List.mem_filter
  have hheld := hnames.filter fun name => (j.member? name).isSome
  generalize names.filter (fun name => (j.member? name).isSome) = held at hmem hheld
  simp only [HoldsOneOf, ← hmem, List.length_eq_one_iff]
  constructor
  · rintro ⟨name, hname, honly⟩
    refine ⟨name, ?_⟩
    by_contra hne
    rcases (hheld.ne_singleton_iff name).mp hne with hnil | ⟨other, hother, hdiffers⟩
    · simp [hnil] at hname
    · exact hdiffers (honly other hother)
  · rintro ⟨name, rfl⟩
    exact ⟨name, List.mem_singleton_self name, fun _ => List.mem_singleton.mp⟩

end Json

namespace Connection

/-- Whatever is received between two sessions asks for a token or has a body of the kind. -/
def SendsOnly (k : Connection) (P : Json → Prop) (s s' : Session) : Prop :=
  ∃ sent, s'.log = s.log ++ sent ∧
    ∀ r ∈ sent, (∃ target, r = k.tokenRequest target) ∨ ∃ j, r.payload = .json j ∧ P j

variable {k : Connection} {P : Json → Prop} {s s' : Session} {method : Http.Method} {url : String}
  {params : List (String × String)} {j : Json}

theorem SendsOnly.refl (k : Connection) (P : Json → Prop) (s : Session) : k.SendsOnly P s s :=
  ⟨[], by simp, by simp⟩

/-- A form for a token is no JSON, so the one request with a body of JSON has one of the kind. -/
theorem SendsOnly.of_log (h : k.SendsOnly P s s') {r : Http.Request} (hlog : s'.log = s.log ++ [r])
    (hr : r.payload = .json j) : P j := by
  obtain ⟨sent, hsent, hall⟩ := h
  obtain rfl : [r] = sent := List.append_cancel_left (hlog.symm.trans hsent)
  obtain ⟨target, htoken⟩ | ⟨j', hj', hP⟩ := hall r (List.mem_singleton_self r)
  · rw [htoken] at hr
    cases hr
  · rw [hr] at hj'
    cases hj'
    exact hP

theorem CallsOnce.sendsOnly (h : k.CallsOnce method url params (.json j) s s') (hj : P j) :
    k.SendsOnly P s s' := by
  obtain ⟨asked, called, hlog, -, -, hasked, hcalled⟩ := h
  refine ⟨asked ++ called, by rw [hlog, List.append_assoc], ?_⟩
  intro r hr
  rcases List.mem_append.mp hr with hr | hr
  · obtain ⟨target, -, hr⟩ := hasked r hr
    exact .inl ⟨target, hr⟩
  · obtain ⟨token, s₁, target, -, -, rfl⟩ := hcalled r hr
    exact .inr ⟨j, rfl, hj⟩

end Connection

namespace Operation
variable {S : Type} {op : Operation S} {k : Connection} {P : Json → Prop} {s : S}
  {session : Session} {encode : S → Except Failure Json}

theorem sendsOnly_execute (hbody : op.body = some encode) (h : ∀ j, encode s = .ok j → P j) :
    k.SendsOnly P session (op.execute k s session).session := by
  cases hrequest : op.request s k.client.baseUrl with
  | error failure =>
    rw [execute_of_request_eq_error hrequest]
    exact .refl k P session
  | ok sent =>
    obtain ⟨url, payload⟩ := sent
    have hpayload := (request_eq_ok_iff.mp hrequest).2
    simp only [Operation.payload, hbody] at hpayload
    obtain ⟨j, hj, rfl⟩ := map_eq_ok_iff.mp hpayload
    exact (callsOnce_execute hrequest).sendsOnly (h j hj)

end Operation

namespace Resource
variable {S α : Type} {r : Resource S} {k : Connection} {P : Json → Prop} {op : Operation S}
  {s : S} {session : Session} {encode : S → Except Failure Json}

theorem Reports.after_eq {step : Step α} {result : Outcome → S → α}
    (h : r.Reports (some k) op s session step result) :
    Session.after (step session) = (op.execute k s session).session := by
  have hshown (told : List Diagnostic) :
      (step.shown session told).2.2 = Session.after (step session) := by
    unfold Step.shown
    cases step session <;> rfl
  rw [← hshown []]
  cases houtcome : (op.execute k s session).outcome with
  | error failure => rw [h.fails rfl houtcome]
  | ok outcome => rw [h.succeeds rfl houtcome]

theorem sendsOnly_createObject (hbody : r.create.body = some encode)
    (h : ∀ j, encode s = .ok j → P j) (kept : Field Unit) :
    k.SendsOnly P session (Session.after (r.createObject (some k) ⟨.known s, kept⟩ session)) := by
  rw [(r.createObject_reports (some k) s kept session).after_eq]
  exact Operation.sendsOnly_execute hbody h

theorem sendsOnly_updateObject (hop : r.update = some op) (hbody : op.body = some encode)
    (h : ∀ j, encode s = .ok j → P j) (kept : Field Unit) :
    k.SendsOnly P session (Session.after (r.updateObject (some k) ⟨.known s, kept⟩ session)) := by
  rw [(updateObject_reports hop (some k) s kept session).after_eq]
  exact Operation.sendsOnly_execute hbody h

end Resource
end ControlPlane
