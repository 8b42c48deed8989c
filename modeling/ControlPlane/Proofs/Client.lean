import ControlPlane.Client
import Mathlib

/-! Calls on a control plane that succeed, and what they leave in the session. -/
namespace ControlPlane

/-- The token that is kept is of a kind for as long as it is used. -/
def Session.Keeps (s : Session) (valid : Token → Prop) : Prop :=
  ∀ token ∈ s.token, token.isFresh → valid token

namespace Connection
variable {k : Connection} {s s' : Session} {method : Http.Method} {url : String}
  {params : List (String × String)} {payload : Http.Payload} {body : List UInt8}

theorem exchange_eq_complete_iff {authorization : Option String} {status : Http.Status} :
    k.exchange method url params authorization payload s = (.complete status body, s') ↔
      ∃ target, Url.target? url params = some target ∧
        k.server s.log ⟨method, target, authorization, payload⟩ = .complete status body ∧
        s' = { s with log := s.log ++ [⟨method, target, authorization, payload⟩] } := by
  unfold exchange
  cases Url.target? url params with
  | none => simp
  | some target =>
    simp only [Option.some.injEq, exists_eq_left']
    cases hreply : k.server s.log ⟨method, target, authorization, payload⟩ with
    | complete => simp [eq_comm]
    | unreachable | dropped | truncated => simp

theorem bodyOf_eq_ok_iff {reply : Http.Reply} :
    bodyOf method url reply = .ok body ↔
      ∃ status, reply = .complete status body ∧ status.isSuccess := by
  unfold bodyOf
  cases reply with
  | complete status text =>
    cases hs : status.isSuccess <;> simp [hs]
  | unreachable | dropped | truncated => simp

/-- The request of a call as it arrives. -/
def authorized (token : Token) (method : Http.Method) (target : String) (payload : Http.Payload) :
    Http.Request :=
  ⟨method, target, some s!"Bearer {token.secret}", payload⟩

theorem send_eq_ok_iff :
    k.send method url params payload s = .ok body s' ↔
      ∃ token s₁ target status, k.token s = .ok token s₁ ∧ token.isSendable ∧
        Url.target? url params = some target ∧
        k.server s₁.log (authorized token method target payload) = .complete status body ∧
        status.isSuccess ∧
        s' = { s₁ with log := s₁.log ++ [authorized token method target payload] } := by
  constructor
  · intro h
    unfold send at h
    cases htoken : k.token s with
    | error failure s₁ => simp [htoken] at h
    | ok token s₁ =>
      simp only [htoken] at h
      split_ifs at h with hsend
      cases hex : k.exchange method url params (some s!"Bearer {token.secret}") payload s₁ with
      | mk reply s₂ =>
        simp only [hex] at h
        cases hbody : bodyOf method url reply with
        | error failure => simp [hbody] at h
        | ok text =>
          simp only [hbody, EStateM.Result.ok.injEq] at h
          obtain ⟨rfl, rfl⟩ := h
          obtain ⟨status, rfl, hs⟩ := bodyOf_eq_ok_iff.mp hbody
          obtain ⟨target, htarget, hreply, rfl⟩ := exchange_eq_complete_iff.mp hex
          exact ⟨token, s₁, target, status, rfl, hsend, htarget, hreply, hs, rfl⟩
  · intro h
    obtain ⟨token, s₁, target, status, htoken, hsend, htarget, hreply, hs, rfl⟩ := h
    have hex := exchange_eq_complete_iff.mpr ⟨target, htarget, hreply, rfl⟩
    have hbody : bodyOf method url (.complete status body) = .ok body :=
      bodyOf_eq_ok_iff.mpr ⟨status, rfl, hs⟩
    simp only [authorized] at hex ⊢
    simp only [send, htoken, hsend, if_true, hex, hbody]

/-- The reply that came last. -/
def lastReply? (k : Connection) (s : Session) : Option Http.Reply :=
  s.log.getLast?.map (k.server s.log.dropLast)

theorem lastReply?_of_send (h : k.send method url params payload s = .ok body s') :
    ∃ status, k.lastReply? s' = some (.complete status body) := by
  obtain ⟨token, s₁, target, status, -, -, -, hreply, -, rfl⟩ := send_eq_ok_iff.mp h
  refine ⟨status, ?_⟩
  simp [lastReply?, hreply]

/-- The request for a token, to the target of the token endpoint. -/
def tokenRequest (k : Connection) (target : String) : Http.Request :=
  ⟨.post, target, none, .form (String.ofList (Text.Form.encode k.client.tokens.credentials))⟩

/-- The control plane grants tokens of a kind, whenever it is asked for one. -/
structure Grants (k : Connection) (valid : Token → Prop) (target : String) : Prop where
  reached : Url.target? k.client.tokens.url [] = some target
  issues (log : List Http.Request) :
    ∃ token, k.tokenOf (k.server log (k.tokenRequest target)) = .ok token ∧ valid token
  sendable (token : Token) (h : valid token) : token.isSendable

theorem complete_of_tokenOf {reply : Http.Reply} {token : Token}
    (h : k.tokenOf reply = .ok token) : ∃ status body, reply = .complete status body := by
  cases reply with
  | complete status body => exact ⟨status, body, rfl⟩
  | unreachable | dropped | truncated => simp [tokenOf] at h

theorem Grants.token_eq_ok {valid : Token → Prop} {target : String} (h : k.Grants valid target)
    (hs : s.Keeps valid) :
    ∃ token s' asked, k.token s = .ok token s' ∧ valid token ∧ s'.Keeps valid ∧
      s'.log = s.log ++ asked ∧ ∀ r ∈ asked, r = k.tokenRequest target := by
  unfold token
  cases hkept : s.token.filter Token.isFresh with
  | some token =>
    obtain ⟨htoken, hfresh⟩ := Option.filter_eq_some_iff.mp hkept
    exact ⟨token, s, [], rfl, hs token htoken hfresh, hs, by simp, by simp⟩
  | none =>
    obtain ⟨token, htoken, hvalid⟩ := h.issues s.log
    obtain ⟨status, body, hreply⟩ := complete_of_tokenOf htoken
    have hex := exchange_eq_complete_iff.mpr ⟨target, h.reached, hreply, rfl⟩
    rw [hreply] at htoken
    refine ⟨token, ⟨s.log ++ [k.tokenRequest target], some token⟩, [k.tokenRequest target], ?_,
      hvalid, ?_, rfl, by simp⟩
    · simp only [fetchToken, tokenRequest, hex, htoken]
    · intro t ht _
      obtain rfl := Option.some.inj ht
      exact hvalid

theorem grants_of_server {target : String}
    (hreached : Url.target? k.client.tokens.url [] = some target)
    (hserver : ∀ log, k.server log (k.tokenRequest target) =
      .complete 200 (Text.utf8 "\x7b\"access_token\":\"t\"\x7d".toList)) :
    k.Grants (fun token => token.secret = "t") target where
  reached := hreached
  issues log := by
    have hparse : Json.parse? (Text.utf8 "\x7b\"access_token\":\"t\"\x7d".toList) =
        some (.obj [("access_token", .str "t")]) := by
      cbv
    refine ⟨⟨"t", none⟩, ?_, rfl⟩
    rw [hserver]
    simp only [tokenOf, hparse]
    rfl
  sendable token h := by
    simp only [Token.isSendable, h]
    decide

end Connection
end ControlPlane
