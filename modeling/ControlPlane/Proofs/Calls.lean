import ControlPlane.Proofs.Client

/-!
All that a call can come to. A call that is answered tells the reply, and whatever happens it sends
one request at most, after one request for a token at most.
-/
namespace ControlPlane

/-- The session that a call or a step leaves, however it ends. -/
def Session.after {ε α : Type} : EStateM.Result ε Session α → Session
  | .ok _ s => s
  | .error _ s => s

namespace Connection
variable {k : Connection} {s s' : Session} {method : Http.Method} {url : String}
  {params : List (String × String)} {payload : Http.Payload} {body : List UInt8}

theorem exchange_cases (k : Connection) (method : Http.Method) (url : String)
    (params : List (String × String)) (authorization : Option String) (payload : Http.Payload)
    (s : Session) :
    k.exchange method url params authorization payload s = (.unreachable, s) ∨
      ∃ target reply, Url.target? url params = some target ∧
        k.server s.log ⟨method, target, authorization, payload⟩ = reply ∧
        k.exchange method url params authorization payload s =
          (reply, { s with log := s.log ++ [⟨method, target, authorization, payload⟩] }) := by
  unfold exchange
  cases Url.target? url params with
  | none => exact .inl rfl
  | some target =>
    cases hreply : k.server s.log ⟨method, target, authorization, payload⟩ with
    | unreachable =>
      left
      simp only [hreply]
    | dropped | truncated | complete =>
      right
      exact ⟨target, _, rfl, hreply, by simp only [hreply]⟩

theorem auth_of_token_eq_error {failure : Failure} (h : k.token s = .error failure s') :
    ∃ fault, failure = .auth fault := by
  unfold token fetchToken at h
  split at h
  · cases h
  · simp only at h
    split at h
    · cases h
    · cases h
      exact ⟨_, rfl⟩

theorem log_after_token (k : Connection) (s : Session) :
    ∃ asked : List Http.Request, (Session.after (k.token s)).log = s.log ++ asked ∧
      asked.length ≤ 1 ∧ ∀ r ∈ asked, ∃ target, Url.target? k.client.tokens.url [] = some target ∧
        r = k.tokenRequest target := by
  unfold token
  split
  · exact ⟨[], (List.append_nil _).symm, Nat.zero_le 1, by simp⟩
  · have hlog (reply : Http.Reply) (s₁ : Session) (h : k.exchange .post k.client.tokens.url [] none
        (.form (String.ofList (Text.Form.encode k.client.tokens.credentials))) s = (reply, s₁)) :
        (Session.after (k.fetchToken s)).log = s₁.log := by
      simp only [fetchToken, h]
      split <;> rfl
    rcases k.exchange_cases .post k.client.tokens.url [] none _ s with
      h | ⟨target, reply, htarget, -, h⟩
    · refine ⟨[], ?_, Nat.zero_le 1, by simp⟩
      rw [hlog _ _ h, List.append_nil]
    · refine ⟨[k.tokenRequest target], hlog _ _ h, Nat.le_refl 1, ?_⟩
      intro r hr
      exact ⟨target, htarget, List.mem_singleton.mp hr⟩

/-- A call is answered: its request is the last one that was received, and the whole of the reply
came back. -/
def Answers (k : Connection) (method : Http.Method) (url : String)
    (params : List (String × String)) (payload : Http.Payload) (s : Session)
    (status : Http.Status) (body : List UInt8) (s' : Session) : Prop :=
  ∃ token s₁ target, k.token s = .ok token s₁ ∧ token.isSendable ∧
    Url.target? url params = some target ∧
    k.server s₁.log (authorized token method target payload) = .complete status body ∧
    s' = { s₁ with log := s₁.log ++ [authorized token method target payload] }

/-- All that a call can come to. -/
inductive Sends (k : Connection) (method : Http.Method) (url : String)
    (params : List (String × String)) (payload : Http.Payload) (s : Session) :
    EStateM.Result Failure Session (List UInt8) → Prop
  | unauthorized {fault : AuthFault} {s' : Session} (h : k.token s = .error (.auth fault) s') :
    Sends k method url params payload s (.error (.auth fault) s')
  | unsent {token : Token} {s' : Session} (h : k.token s = .ok token s') :
    Sends k method url params payload s (.error (.transport url) s')
  | unanswered {token : Token} {s₁ : Session} {target : String} (h : k.token s = .ok token s₁)
    (htarget : Url.target? url params = some target) :
    Sends k method url params payload s (.error (.transport url)
      { s₁ with log := s₁.log ++ [authorized token method target payload] })
  | succeeds {status : Http.Status} {body : List UInt8} {s' : Session}
    (h : k.Answers method url params payload s status body s') (hs : status.isSuccess) :
    Sends k method url params payload s (.ok body s')
  | refused {status : Http.Status} {body : List UInt8} {s' : Session}
    (h : k.Answers method url params payload s status body s') (hs : ¬ status.isSuccess) :
    Sends k method url params payload s (.error (.http method url status (Text.lossy body)) s')

theorem Answers.send_eq {status : Http.Status}
    (h : k.Answers method url params payload s status body s') :
    k.send method url params payload s =
      if status.isSuccess then .ok body s'
      else .error (.http method url status (Text.lossy body)) s' := by
  obtain ⟨token, s₁, target, htoken, hsend, htarget, hreply, rfl⟩ := h
  have hex := exchange_eq_complete_iff.mpr ⟨target, htarget, hreply, rfl⟩
  simp only [authorized] at hex ⊢
  simp only [Connection.send, htoken, hsend, if_true, hex, bodyOf]
  cases status.isSuccess <;> rfl

theorem sends_send (k : Connection) (method : Http.Method) (url : String)
    (params : List (String × String)) (payload : Http.Payload) (s : Session) :
    k.Sends method url params payload s (k.send method url params payload s) := by
  cases htoken : k.token s with
  | error failure s₁ =>
    obtain ⟨fault, rfl⟩ := auth_of_token_eq_error htoken
    have hsend : k.send method url params payload s = .error (.auth fault) s₁ := by
      simp only [send, htoken]
    rw [hsend]
    exact .unauthorized htoken
  | ok token s₁ =>
    by_cases hsendable : token.isSendable
    · rcases k.exchange_cases method url params (some s!"Bearer {token.secret}") payload s₁ with
        hex | ⟨target, reply, htarget, hreply, hex⟩
      · have hsend : k.send method url params payload s = .error (.transport url) s₁ := by
          simp only [send, htoken, hsendable, if_true, hex, bodyOf]
        rw [hsend]
        exact .unsent htoken
      · cases reply with
        | unreachable | dropped | truncated =>
          have hsend : k.send method url params payload s = .error (.transport url)
              { s₁ with log := s₁.log ++ [authorized token method target payload] } := by
            simp only [send, htoken, hsendable, if_true, hex, bodyOf, authorized]
          rw [hsend]
          exact .unanswered htoken htarget
        | complete status body =>
          have hanswers : k.Answers method url params payload s status body _ :=
            ⟨token, s₁, target, htoken, hsendable, htarget, hreply, rfl⟩
          rw [hanswers.send_eq]
          split_ifs with hs
          · exact .succeeds hanswers hs
          · exact .refused hanswers hs
    · have hsend : k.send method url params payload s = .error (.transport url) s₁ := by
        simp only [send, htoken, if_neg hsendable]
      rw [hsend]
      exact .unsent htoken

theorem send_eq_ok_iff_answers :
    k.send method url params payload s = .ok body s' ↔
      ∃ status, k.Answers method url params payload s status body s' ∧ status.isSuccess := by
  constructor
  · intro h
    have hsends := k.sends_send method url params payload s
    rw [h] at hsends
    cases hsends with
    | succeeds h hs => exact ⟨_, h, hs⟩
  · rintro ⟨status, h, hs⟩
    rw [h.send_eq, if_pos hs]

theorem getJson_eq_ok_iff {α : Type} {read : Json → Option α} {a : α} :
    k.getJson url params read s = .ok a s' ↔
      ∃ status body, k.Answers .get url params .none s status body s' ∧ status.isSuccess ∧
        (Json.parse? body).bind read = some a := by
  unfold getJson
  constructor
  · intro h
    cases hsend : k.send .get url params .none s with
    | error failure s₁ => simp [hsend] at h
    | ok body s₁ =>
      simp only [hsend] at h
      cases hread : (Json.parse? body).bind read with
      | none => simp [hread] at h
      | some value =>
        simp only [hread, EStateM.Result.ok.injEq] at h
        obtain ⟨rfl, rfl⟩ := h
        obtain ⟨status, hanswers, hs⟩ := send_eq_ok_iff_answers.mp hsend
        exact ⟨status, body, hanswers, hs, hread⟩
  · rintro ⟨status, body, hanswers, hs, hread⟩
    have hsend := send_eq_ok_iff_answers.mpr ⟨status, hanswers, hs⟩
    simp only [hsend, hread]

/-- Only the reply to the call itself gives its status away. A token that is refused does not. -/
theorem send_eq_error_status_iff {status : Http.Status} (hs : ¬ status.isSuccess) :
    (∃ failure, k.send method url params payload s = .error failure s' ∧
        failure.status? = some status) ↔
      ∃ body, k.Answers method url params payload s status body s' := by
  constructor
  · rintro ⟨failure, h, hstatus⟩
    have hsends := k.sends_send method url params payload s
    rw [h] at hsends
    cases hsends with
    | unauthorized | unsent | unanswered => cases hstatus
    | refused h _ =>
      cases hstatus
      exact ⟨_, h⟩
  · rintro ⟨body, h⟩
    exact ⟨_, by rw [h.send_eq, if_neg hs], rfl⟩

/-- Between two sessions there is one request of a call at most, with the token that was obtained
for it, and one request for a token at most before it. -/
def CallsOnce (k : Connection) (method : Http.Method) (url : String)
    (params : List (String × String)) (payload : Http.Payload) (s s' : Session) : Prop :=
  ∃ asked called : List Http.Request, s'.log = s.log ++ asked ++ called ∧
    asked.length ≤ 1 ∧ called.length ≤ 1 ∧
    (∀ r ∈ asked, ∃ target, Url.target? k.client.tokens.url [] = some target ∧
      r = k.tokenRequest target) ∧
    ∀ r ∈ called, ∃ token s₁ target, k.token s = .ok token s₁ ∧
      Url.target? url params = some target ∧ r = authorized token method target payload

theorem CallsOnce.of_token {result : EStateM.Result Failure Session Token}
    (h : k.token s = result) :
    k.CallsOnce method url params payload s (Session.after result) := by
  obtain ⟨asked, hlog, hlength, hasked⟩ := k.log_after_token s
  rw [h] at hlog
  exact ⟨asked, [], by simp [hlog], hlength, by simp, hasked, by simp⟩

theorem CallsOnce.of_authorized {token : Token} {s₁ : Session} {target : String}
    (h : k.token s = .ok token s₁) (htarget : Url.target? url params = some target) :
    k.CallsOnce method url params payload s
      { s₁ with log := s₁.log ++ [authorized token method target payload] } := by
  obtain ⟨asked, hlog, hlength, hasked⟩ := k.log_after_token s
  rw [h] at hlog
  refine ⟨asked, [_], congrArg (· ++ _) hlog, hlength, Nat.le_refl 1, hasked, ?_⟩
  intro r hr
  exact ⟨token, s₁, target, h, htarget, List.mem_singleton.mp hr⟩

theorem Answers.callsOnce {status : Http.Status}
    (h : k.Answers method url params payload s status body s') :
    k.CallsOnce method url params payload s s' := by
  obtain ⟨token, s₁, target, htoken, -, htarget, -, rfl⟩ := h
  exact .of_authorized htoken htarget

theorem Sends.callsOnce {result : EStateM.Result Failure Session (List UInt8)}
    (h : k.Sends method url params payload s result) :
    k.CallsOnce method url params payload s (Session.after result) := by
  cases h with
  | unauthorized h => exact .of_token h
  | unsent h => exact .of_token h
  | unanswered h htarget => exact .of_authorized h htarget
  | succeeds h _ => exact h.callsOnce
  | refused h _ => exact h.callsOnce

theorem callsOnce_getJson {α : Type} {read : Json → Option α} :
    k.CallsOnce .get url params .none s (Session.after (k.getJson url params read s)) := by
  have h := (k.sends_send .get url params .none s).callsOnce
  have hafter : Session.after (k.getJson url params read s) =
      Session.after (k.send .get url params .none s) := by
    unfold getJson
    cases k.send .get url params .none s with
    | error failure s₁ => rfl
    | ok body s₁ =>
      simp only
      split <;> rfl
  rw [hafter]
  exact h

theorem Grants.getJson_eq_ok {α : Type} {valid : Token → Prop} {tokenTarget target : String}
    (hk : k.Grants valid tokenTarget) (hs : s.Keeps valid)
    (htarget : Url.target? url params = some target) {read : Json → Option α} {a : α}
    (hreply : ∀ log token, valid token → ∃ status body,
      k.server log (authorized token .get target .none) = .complete status body ∧
        status.isSuccess ∧ (Json.parse? body).bind read = some a) :
    ∃ s', k.getJson url params read s = .ok a s' ∧ s'.Keeps valid := by
  obtain ⟨token, s₁, asked, htoken, hvalid, hkeeps, -, -⟩ := hk.token_eq_ok hs
  obtain ⟨status, body, hserver, hsuccess, hread⟩ := hreply s₁.log token hvalid
  refine ⟨{ s₁ with log := s₁.log ++ [authorized token .get target .none] }, ?_, hkeeps⟩
  rw [getJson_eq_ok_iff]
  exact ⟨status, body,
    ⟨token, s₁, target, htoken, hk.sendable token hvalid, htarget, hserver, rfl⟩, hsuccess, hread⟩

end Connection
end ControlPlane
