import ControlPlane.Proofs.Identity.Run
import ControlPlane.Proofs.Operation.Ends

/-!
Objects that are gone. Only the reply to the request of an object says so, with the status for what
is not found. A refused token, a lost connection and any other reply never do.
-/
namespace ControlPlane

namespace Operation
variable {S : Type} {op : Operation S} {k : Connection} {s s' : S} {session session' : Session}

theorem request_of_body_eq_none (h : op.body = none) {base url : String}
    {payload : Http.Payload} :
    op.request s base = .ok (url, payload) ↔ op.url s base = .ok url ∧ payload = .none := by
  rw [request_eq_ok_iff]
  simp only [Operation.payload, h, Except.ok.injEq, eq_comm]

theorem accepts_iff (hop : op.onMissing = .accept) (failure : Failure) :
    op.accepts failure ↔ failure.status? = some .notFound := by
  simp [accepts, hop, Failure.isNotFound]

theorem not_accepts (hop : op.onMissing = .fail) (failure : Failure) : ¬ op.accepts failure := by
  simp [accepts, hop]

theorem execute_eq_notFound_iff (hop : op.onMissing = .accept) :
    op.execute k s session = ⟨.ok .notFound, s', session'⟩ ↔
      s' = s ∧ ∃ url payload body, op.request s k.client.baseUrl = .ok (url, payload) ∧
        k.Answers op.method url [] payload session .notFound body session' := by
  constructor
  · intro h
    have hends := op.ends_execute k s session
    rw [h] at hends
    cases hends with
    | @gone url payload failure _ hrequest hsend haccepts =>
      have hstatus := (accepts_iff hop failure).mp haccepts
      obtain ⟨body, hanswers⟩ :=
        (Connection.send_eq_error_status_iff (by decide)).mp ⟨failure, hsend, hstatus⟩
      exact ⟨rfl, url, payload, body, hrequest, hanswers⟩
  · rintro ⟨rfl, url, payload, body, hrequest, hanswers⟩
    obtain ⟨hurl, hpayload⟩ := request_eq_ok_iff.mp hrequest
    obtain ⟨failure, hsend, hstatus⟩ :=
      (Connection.send_eq_error_status_iff (by decide)).mpr ⟨body, hanswers⟩
    have haccepts := (accepts_iff hop failure).mpr hstatus
    simp only [execute, hurl, hpayload, hsend, if_pos haccepts]

theorem execute_eq_ok_iff (hop : op.onMissing = .accept) (hresponse : op.response = none) :
    (∃ outcome s', op.execute k s session = ⟨.ok outcome, s', session'⟩) ↔
      ∃ url payload status body, op.request s k.client.baseUrl = .ok (url, payload) ∧
        k.Answers op.method url [] payload session status body session' ∧
        (status.isSuccess ∨ status = .notFound) := by
  constructor
  · rintro ⟨outcome, s', h⟩
    cases outcome with
    | applied =>
      obtain ⟨url, payload, reply, hurl, hpayload, hsend, -⟩ := execute_eq_applied_iff.mp h
      obtain ⟨status, hanswers, hstatus⟩ := Connection.send_eq_ok_iff_answers.mp hsend
      exact ⟨url, payload, status, reply, request_eq_ok_iff.mpr ⟨hurl, hpayload⟩, hanswers,
        .inl hstatus⟩
    | notFound =>
      obtain ⟨-, url, payload, body, hrequest, hanswers⟩ := (execute_eq_notFound_iff hop).mp h
      exact ⟨url, payload, _, body, hrequest, hanswers, .inr rfl⟩
  · rintro ⟨url, payload, status, body, hrequest, hanswers, hstatus | rfl⟩
    · obtain ⟨hurl, hpayload⟩ := request_eq_ok_iff.mp hrequest
      have hsend := Connection.send_eq_ok_iff_answers.mpr ⟨status, hanswers, hstatus⟩
      exact ⟨.applied, s, execute_eq_applied_iff.mpr ⟨url, payload, body, hurl, hpayload, hsend,
        absorb_of_response_eq_none hresponse⟩⟩
    · exact ⟨.notFound, s, (execute_eq_notFound_iff hop).mpr
        ⟨rfl, url, payload, body, hrequest, hanswers⟩⟩

theorem execute_of_answers_notFound (hop : op.onMissing = .fail) {url : String}
    {payload : Http.Payload} {body : List UInt8}
    (hrequest : op.request s k.client.baseUrl = .ok (url, payload))
    (hanswers : k.Answers op.method url [] payload session .notFound body session') :
    op.execute k s session =
      ⟨.error (.http op.method url .notFound (Text.lossy body)), s, session'⟩ := by
  obtain ⟨hurl, hpayload⟩ := request_eq_ok_iff.mp hrequest
  have hsend := hanswers.send_eq
  rw [if_neg (by decide)] at hsend
  simp only [execute, hurl, hpayload, hsend, if_neg (not_accepts hop _)]

end Operation

namespace Resource
variable {S : Type} {r : Resource S} {k? : Option Connection} {op : Operation S} {s : S}
  {session session' : Session}

/-- A step that is not done with an object that is missing: it ends well on a success of its own
request only, and tells of the missing object. -/
structure Insists (r : Resource S) (k? : Option Connection) (op : Operation S) (s : S)
    (session session' : Session) (step : Step (Managed S)) : Prop where
  success {object : Managed S} (h : step session = .ok object session') :
    ∃ k url payload status body, k? = some k ∧
      op.request s k.client.baseUrl = .ok (url, payload) ∧
      k.Answers op.method url [] payload session status body session' ∧ status.isSuccess
  missing {k : Connection} {url : String} {payload : Http.Payload} {body : List UInt8}
    (hk : k? = some k) (hrequest : op.request s k.client.baseUrl = .ok (url, payload))
    (hanswers : k.Answers op.method url [] payload session .notFound body session') :
    step session =
      .error (r.failed op.kind (.http op.method url .notFound (Text.lossy body))) session'

theorem answers_of_applies {k : Connection} {s' : S} (h : op.Applies k s session s' session') :
    ∃ url payload status body, op.request s k.client.baseUrl = .ok (url, payload) ∧
      k.Answers op.method url [] payload session status body session' ∧ status.isSuccess := by
  obtain ⟨url, payload, reply, hurl, hpayload, hsend, -⟩ := h
  obtain ⟨status, hanswers, hstatus⟩ := Connection.send_eq_ok_iff_answers.mp hsend
  exact ⟨url, payload, status, reply, Operation.request_eq_ok_iff.mpr ⟨hurl, hpayload⟩, hanswers,
    hstatus⟩

theorem createObject_insists (hop : r.create.onMissing = .fail) (k? : Option Connection) (s : S)
    (kept : Field Unit) (session session' : Session) :
    r.Insists k? r.create s session session' (r.createObject k? ⟨.known s, kept⟩) where
  success h := by
    obtain ⟨k, s₁, s', hk, hs, happlies, -⟩ := (createObject_eq_ok_iff hop).mp h
    cases hs
    obtain ⟨url, payload, status, body, h⟩ := answers_of_applies happlies
    exact ⟨k, url, payload, status, body, hk, h⟩
  missing hk hrequest hanswers := by
    cases hk
    have hexecute := Operation.execute_of_answers_notFound hop hrequest hanswers
    rw [createObject_eq_error (congrArg Operation.Run.outcome hexecute), hexecute]

theorem updateObject_insists (hupdate : ∀ op ∈ r.update, op.onMissing = .fail)
    (hop : r.update = some op) (k? : Option Connection) (s : S) (kept : Field Unit)
    (session session' : Session) :
    r.Insists k? op s session session' (r.updateObject k? ⟨.known s, kept⟩) where
  success h := by
    obtain ⟨op', k, s₁, s', hop', hk, hs, happlies, -⟩ := (updateObject_eq_ok_iff hupdate).mp h
    cases hop.symm.trans hop'
    cases hs
    obtain ⟨url, payload, status, body, h⟩ := answers_of_applies happlies
    exact ⟨k, url, payload, status, body, hk, h⟩
  missing hk hrequest hanswers := by
    cases hk
    have hexecute := Operation.execute_of_answers_notFound (hupdate op hop) hrequest hanswers
    rw [updateObject_eq_error hop (congrArg Operation.Run.outcome hexecute), hexecute]

end Resource

namespace ResourceKind

theorem read_shape (kind : ResourceKind) :
    kind.resource.read.method = .get ∧ kind.resource.read.body = none ∧
      kind.resource.read.onMissing = .accept := by
  cases kind <;> exact ⟨rfl, rfl, rfl⟩

theorem delete_shape (kind : ResourceKind) :
    kind.resource.delete.method = .delete ∧ kind.resource.delete.body = none ∧
      kind.resource.delete.onMissing = .accept ∧ kind.resource.delete.response = none := by
  cases kind <;> exact ⟨rfl, rfl, rfl, rfl⟩

/--
An object leaves the state when the request to read it is answered with the status for what is not
found, and stays otherwise. It is destroyed when the request to delete it is answered with that
status or with a success, and to create and to update an object fails where it is missing.
-/
theorem removed_iff_notFound (kind : ResourceKind) (s : kind.State) (kept : Field Unit)
    (k? : Option Connection) (session session' : Session) :
    ((∃ object, kind.resource.readObject k? ⟨.known s, kept⟩ session = .ok object session' ∧
        object.state = .null) ↔
      ∃ k url body, k? = some k ∧ kind.resource.read.url s k.client.baseUrl = .ok url ∧
        k.Answers .get url [] .none session .notFound body session') ∧
    (kind.resource.destroyObject k? (.known s) session = .ok () session' ↔
      ∃ k url status body, k? = some k ∧ kind.resource.delete.url s k.client.baseUrl = .ok url ∧
        k.Answers .delete url [] .none session status body session' ∧
        (status.isSuccess ∨ status = .notFound)) ∧
    kind.resource.Insists k? kind.resource.create s session session'
      (kind.resource.createObject k? ⟨.known s, kept⟩) ∧
    ∀ op, kind.resource.update = some op →
      kind.resource.Insists k? op s session session'
        (kind.resource.updateObject k? ⟨.known s, kept⟩) := by
  refine ⟨?_, ?_, ?_, ?_⟩
  · obtain ⟨hmethod, hbody, hmissing⟩ := kind.read_shape
    simp only [Resource.readObject_eq_ok_null_iff, Operation.execute_eq_notFound_iff hmissing,
      Operation.request_of_body_eq_none hbody, hmethod]
    constructor
    · rintro ⟨_, rfl, k, _, hk, rfl, url, _, body, ⟨hurl, rfl⟩, hanswers⟩
      exact ⟨k, url, body, hk, hurl, hanswers⟩
    · rintro ⟨k, url, body, hk, hurl, hanswers⟩
      exact ⟨_, rfl, k, s, hk, rfl, url, .none, body, ⟨hurl, rfl⟩, hanswers⟩
  · obtain ⟨hmethod, hbody, hmissing, hresponse⟩ := kind.delete_shape
    rw [Resource.destroyObject_eq_ok_iff]
    constructor
    · rintro ⟨k, outcome, s', hk, h⟩
      obtain ⟨url, payload, status, body, hrequest, hanswers, hstatus⟩ :=
        (Operation.execute_eq_ok_iff hmissing hresponse).mp ⟨outcome, s', h⟩
      obtain ⟨hurl, rfl⟩ := (Operation.request_of_body_eq_none hbody).mp hrequest
      rw [hmethod] at hanswers
      exact ⟨k, url, status, body, hk, hurl, hanswers, hstatus⟩
    · rintro ⟨k, url, status, body, hk, hurl, hanswers, hstatus⟩
      rw [← hmethod] at hanswers
      have hrequest := (Operation.request_of_body_eq_none hbody).mpr ⟨hurl, rfl⟩
      obtain ⟨outcome, s', h⟩ := (Operation.execute_eq_ok_iff hmissing hresponse).mpr
        ⟨url, .none, status, body, hrequest, hanswers, hstatus⟩
      exact ⟨k, outcome, s', hk, h⟩
  · exact Resource.createObject_insists kind.create_onMissing k? s kept session session'
  · intro op hop
    exact Resource.updateObject_insists kind.update_onMissing hop k? s kept session session'

end ResourceKind
end ControlPlane
