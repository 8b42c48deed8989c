import ControlPlane.Proofs.Calls
import ControlPlane.Proofs.Json.Record

/-!
The token that a client keeps. Calls ask for a token each until they obtain one that lasts, and from
then on all of them carry that one. A request for a token that fails changes nothing.
-/
namespace ControlPlane

namespace Token

/-- A token that expires so soon is used for one call only. -/
def IsBrief (t : Token) : Prop := ∃ seconds, t.lifetime = some seconds ∧ seconds ≤ 10

theorem isFresh_iff {t : Token} : t.isFresh ↔ ¬ t.IsBrief := by
  obtain ⟨secret, lifetime⟩ := t
  cases lifetime with
  | none => simp [isFresh, IsBrief]
  | some seconds =>
    have hfresh : isFresh ⟨secret, some seconds⟩ ↔ 10 < seconds := decide_eq_true_iff
    rw [hfresh, IsBrief]
    simp

theorem toLower_eq_iff {c lower : Char} (h : lower.isLower) :
    c.toLower = lower ↔ c = lower ∨ c = lower.toUpper := by
  have hlower : 'a'.val ≤ lower.val ∧ lower.val ≤ 'z'.val := by simpa [Char.isLower] using h
  have hrange : 97 ≤ lower.toNat ∧ lower.toNat ≤ 122 := by
    simpa [UInt32.le_iff_toNat_le] using hlower
  have hupper : lower.toUpper.toNat = lower.toNat - 32 := by
    rw [Char.toUpper, dif_pos hlower]
    have hsum : (lower.val + ('A'.val - 'a'.val)).toNat =
        (lower.toNat + 4294967264) % 4294967296 := by
      simp [UInt32.toNat_add]
    change (lower.val + ('A'.val - 'a'.val)).toNat = _
    omega
  rw [← Char.toNat_inj, ← Char.toNat_inj, ← Char.toNat_inj, hupper]
  unfold Char.toLower
  split_ifs with hc
  · have hrange' : 65 ≤ c.toNat ∧ c.toNat ≤ 90 := by
      simpa [UInt32.le_iff_toNat_le] using hc
    have hsum : (c.val + ('a'.val - 'A'.val)).toNat = (c.toNat + 32) % 4294967296 := by
      simp [UInt32.toNat_add]
    change (c.val + ('a'.val - 'A'.val)).toNat = _ ↔ _
    omega
  · have hrange' : ¬ (65 ≤ c.toNat ∧ c.toNat ≤ 90) := by
      simpa [UInt32.le_iff_toNat_le] using hc
    omega

theorem map_toLower_eq_iff {cs lower : List Char} (h : ∀ c ∈ lower, c.isLower) :
    cs.map Char.toLower = lower ↔ List.Forall₂ (fun c l => c = l ∨ c = l.toUpper) cs lower := by
  induction lower generalizing cs with
  | nil => simp
  | cons l lower ih =>
    cases cs with
    | nil => simp
    | cons c cs =>
      have hl : l.isLower := h l List.mem_cons_self
      have hlower : ∀ c ∈ lower, c.isLower := fun c hc => h c (List.mem_cons_of_mem _ hc)
      rw [List.map_cons, List.cons.injEq, toLower_eq_iff hl, ih hlower, List.forall₂_cons]

/-- The type of a token may be written with large and small letters. -/
theorem isBearer_iff {type : String} :
    isBearer type ↔
      List.Forall₂ (fun c l => c = l ∨ c = l.toUpper) type.toList "bearer".toList := by
  rw [isBearer, decide_eq_true_iff, ← String.toList_inj, String.toList_map]
  apply map_toLower_eq_iff
  simp [Char.isLower]

/-- What is said of a token that is granted. Its lifetime is any number of 64 bits. -/
def told (secret : String) (type : Option String) (seconds : Option UInt64) : Json :=
  .obj ([("access_token", .str secret)] ++ Json.optionMember "token_type" .str type ++
    Json.optionMember "expires_in" (fun n => .int n.toNat) seconds)

theorem seconds?_toNat (n : UInt64) : Json.seconds? (.int n.toNat) = some n.toNat := by
  have h : (0 : Int) ≤ n.toNat ∧ (n.toNat : Int).toNat < UInt64.size := by
    constructor
    · omega
    · exact n.toNat_lt_size
  rw [Json.seconds?, if_pos h, Int.toNat_natCast]

theorem ofJson?_told (secret : String) (type : Option String) (seconds : Option UInt64) :
    ofJson? (told secret type seconds) = some (⟨secret, seconds.map UInt64.toNat⟩, type) := by
  have hfields : (told secret type seconds).fields?
      ["access_token", "token_type", "expires_in"] = some _ :=
    Json.fields?_obj (by decide) (((Json.Within.single "access_token" (.str secret)).append
      (.optionMember "token_type" .str type)).append
      (.optionMember "expires_in" (fun n => .int n.toNat) seconds))
  have htext (text : String) : Json.text? (.str text) = some text := rfl
  have htype := Json.elim_option Json.str (by simp) htext type
  have hseconds := Json.elim_option_map (fun n : UInt64 => .int n.toNat) (by simp)
    seconds?_toNat seconds
  simp [ofJson?, hfields, Json.field?, Json.fieldD?_eq_elim, List.lookup_append,
    Json.lookup_cons_eq, Json.lookup_optionMember, Json.text?, htype, hseconds]

end Token

namespace Connection
variable {k : Connection} {s s' : Session} {t : Token}

/-- What comes back when a request is sent. -/
def replyTo (k : Connection) (log : List Http.Request) (url : String)
    (params : List (String × String)) (request : String → Http.Request) : Http.Reply :=
  match Url.target? url params with
  | none => .unreachable
  | some target => k.server log (request target)

/-- What arrives when a request is sent: that request, unless no connection is made. -/
def received (k : Connection) (log : List Http.Request) (url : String)
    (params : List (String × String)) (request : String → Http.Request) : List Http.Request :=
  match Url.target? url params with
  | none => []
  | some target =>
    match k.server log (request target) with
    | .unreachable => []
    | _ => [request target]

theorem exchange_eq (k : Connection) (method : Http.Method) (url : String)
    (params : List (String × String)) (authorization : Option String) (payload : Http.Payload)
    (s : Session) :
    k.exchange method url params authorization payload s =
      (k.replyTo s.log url params (⟨method, ·, authorization, payload⟩),
        { s with
          log := s.log ++ k.received s.log url params (⟨method, ·, authorization, payload⟩) }) := by
  unfold exchange replyTo received
  cases Url.target? url params with
  | none => simp
  | some target =>
    cases hreply : k.server s.log ⟨method, target, authorization, payload⟩ with
    | unreachable => simp [hreply]
    | dropped | truncated | complete => simp only [hreply]

theorem tokenOf_eq_ok_iff {reply : Http.Reply} :
    k.tokenOf reply = .ok t ↔
      ∃ status body type, reply = .complete status body ∧ status.isSuccess ∧
        (Json.parse? body).bind Token.ofJson? = some (t, type) ∧
        ∀ name ∈ type, Token.isBearer name := by
  cases reply with
  | unreachable | dropped | truncated => simp [tokenOf]
  | complete status body =>
    simp only [tokenOf]
    by_cases hs : status.isSuccess
    · rw [if_pos hs]
      cases hread : (Json.parse? body).bind Token.ofJson? with
      | none => simp [hread]
      | some told =>
        obtain ⟨token, type⟩ := told
        cases type with
        | none => simp [hread, hs]
        | some name => by_cases hname : Token.isBearer name <;> simp [hread, hs, hname]
    · simp [hs]

/-- What the token endpoint replies when it is asked. -/
def tokenReply (k : Connection) (log : List Http.Request) : Http.Reply :=
  k.replyTo log k.client.tokens.url [] k.tokenRequest

/-- What arrives when a token is asked for once. -/
def tokenRequests (k : Connection) (log : List Http.Request) : List Http.Request :=
  k.received log k.client.tokens.url [] k.tokenRequest

theorem fetchToken_eq (k : Connection) (s : Session) :
    k.fetchToken s =
      match k.tokenOf (k.tokenReply s.log) with
      | .ok t => .ok t ⟨s.log ++ k.tokenRequests s.log, some t⟩
      | .error fault => .error (.auth fault) ⟨s.log ++ k.tokenRequests s.log, s.token⟩ := by
  rw [fetchToken, exchange_eq]
  rfl

theorem received_cases (k : Connection) (log : List Http.Request) (url : String)
    (params : List (String × String)) (request : String → Http.Request) :
    k.replyTo log url params request = .unreachable ∧ k.received log url params request = [] ∨
      ∃ target, k.received log url params request = [request target] ∧
        k.server log (request target) = k.replyTo log url params request := by
  unfold replyTo received
  cases Url.target? url params with
  | none => exact .inl ⟨rfl, rfl⟩
  | some target =>
    cases hreply : k.server log (request target) with
    | unreachable => exact .inl ⟨hreply, by simp only [hreply]⟩
    | dropped | truncated | complete => exact .inr ⟨target, by simp only [hreply], rfl⟩

/-- The tokens that are granted to requests that come after others. Those ask for one that carry
none. -/
def tokensIn (k : Connection) (log : List Http.Request) : List Http.Request → List Token
  | [] => []
  | r :: rest =>
    (if r.authorization = none then (k.tokenOf (k.server log r)).toOption.toList else []) ++
      k.tokensIn (log ++ [r]) rest

theorem tokensIn_of_authorized {log called : List Http.Request}
    (h : ∀ r ∈ called, r.authorization ≠ none) : k.tokensIn log called = [] := by
  induction called generalizing log with
  | nil => rfl
  | cons r rest ih =>
    have hr : r.authorization ≠ none := h r List.mem_cons_self
    have hrest : k.tokensIn (log ++ [r]) rest = [] :=
      ih fun q hq => h q (List.mem_cons_of_mem r hq)
    rw [tokensIn, if_neg hr, hrest]
    rfl

/-- A request for a token obtains what the token endpoint replies. -/
theorem tokensIn_tokenRequests {log called : List Http.Request}
    (h : ∀ r ∈ called, r.authorization ≠ none) :
    k.tokensIn log (k.tokenRequests log ++ called) =
      (k.tokenOf (k.tokenReply log)).toOption.toList := by
  rcases k.received_cases log k.client.tokens.url [] k.tokenRequest with
    ⟨hreply, hnone⟩ | ⟨target, hone, hreply⟩
  · rw [tokenRequests, hnone, List.nil_append, tokensIn_of_authorized h, tokenReply, hreply]
    rfl
  · have hbare : (k.tokenRequest target).authorization = none := rfl
    rw [tokenRequests, hone, List.singleton_append, tokensIn, if_pos hbare, hreply,
      tokensIn_of_authorized h, List.append_nil]
    rfl

end Connection

/-- A call, and the control plane as it is when the call is made. -/
structure Attempt where
  server : Http.Server
  method : Http.Method
  url : String
  params : List (String × String)
  payload : Http.Payload

namespace Attempt

/-- What arrives when the call is made with a token. A token that no header can carry stops it. -/
def requests (a : Attempt) (k : Connection) (t : Token) (log : List Http.Request) :
    List Http.Request :=
  if t.isSendable then
    k.received log a.url a.params (Connection.authorized t a.method · a.payload)
  else []

theorem exists_of_mem_requests {a : Attempt} {k : Connection} {t : Token}
    {log : List Http.Request} {r : Http.Request} (h : r ∈ a.requests k t log) :
    ∃ target, r = Connection.authorized t a.method target a.payload := by
  unfold requests at h
  split_ifs at h with hsend
  · rcases k.received_cases log a.url a.params (Connection.authorized t a.method · a.payload) with
      ⟨-, hnone⟩ | ⟨target, hone, -⟩
    · rw [hnone] at h
      cases h
    · rw [hone] at h
      exact ⟨target, List.mem_singleton.mp h⟩
  · cases h

theorem authorization_of_mem_requests {a : Attempt} {k : Connection} {t : Token}
    {log : List Http.Request} : ∀ r ∈ a.requests k t log, r.authorization ≠ none := by
  intro r hr
  obtain ⟨target, rfl⟩ := exists_of_mem_requests hr
  simp [Connection.authorized]

end Attempt

namespace Client

def connect (c : Client) (a : Attempt) : Connection := ⟨c, a.server⟩

def attempt (c : Client) (a : Attempt) : Call (List UInt8) :=
  (c.connect a).send a.method a.url a.params a.payload

/-- The session after a call. -/
def next (c : Client) (s : Session) (a : Attempt) : Session := Session.after (c.attempt a s)

/-- The tokens that a call obtains. -/
def gained (c : Client) (s : Session) (a : Attempt) : List Token :=
  (c.connect a).tokensIn s.log ((c.next s a).log.drop s.log.length)

/-- The session after calls in a row. -/
def sessionAfter (c : Client) (s : Session) (calls : List Attempt) : Session :=
  calls.foldl c.next s

/-- The tokens that calls in a row obtain, the oldest first. -/
def obtained (c : Client) (s : Session) : List Attempt → List Token
  | [] => []
  | a :: rest => c.gained s a ++ c.obtained (c.next s a) rest

theorem obtained_concat (c : Client) (s : Session) (calls : List Attempt) (a : Attempt) :
    c.obtained s (calls ++ [a]) = c.obtained s calls ++ c.gained (c.sessionAfter s calls) a := by
  induction calls generalizing s with
  | nil => simp [obtained, sessionAfter]
  | cons b rest ih =>
    rw [List.cons_append, obtained, ih, obtained, List.append_assoc]
    rfl

theorem sessionAfter_concat (c : Client) (s : Session) (calls : List Attempt) (a : Attempt) :
    c.sessionAfter s (calls ++ [a]) = c.next (c.sessionAfter s calls) a := by
  rw [sessionAfter, List.foldl_append]
  rfl

variable {c : Client} {s : Session} {a : Attempt} {t : Token}

theorem next_of_token {s₁ : Session} (h : (c.connect a).token s = .ok t s₁) :
    c.next s a = { s₁ with log := s₁.log ++ a.requests (c.connect a) t s₁.log } := by
  unfold next attempt Connection.send Attempt.requests
  rw [h]
  by_cases hsend : t.isSendable
  · simp only [if_pos hsend, Connection.exchange_eq]
    split <;> rfl
  · simp only [if_neg hsend, List.append_nil]
    rfl

theorem attempt_of_token_eq_error {failure : Failure} {s₁ : Session}
    (h : (c.connect a).token s = .error failure s₁) : c.attempt a s = .error failure s₁ := by
  rw [attempt, Connection.send, h]

theorem gained_eq {sent : List Http.Request} (h : (c.next s a).log = s.log ++ sent) :
    c.gained s a = (c.connect a).tokensIn s.log sent := by
  rw [gained, h, List.drop_left]

theorem next_of_lasting (h : s.token = some t) (ht : ¬ t.IsBrief) :
    c.next s a = { s with log := s.log ++ a.requests (c.connect a) t s.log } ∧
      c.gained s a = [] := by
  have hfresh : s.token.filter Token.isFresh = some t := by
    rw [h, Option.filter_some, if_pos (Token.isFresh_iff.mpr ht)]
  have htoken : (c.connect a).token s = .ok t s := by
    simp only [Connection.token, hfresh]
  have hnext := next_of_token htoken
  refine ⟨hnext, ?_⟩
  rw [gained_eq (congrArg Session.log hnext)]
  exact Connection.tokensIn_of_authorized Attempt.authorization_of_mem_requests

theorem token_of_brief (h : ∀ t ∈ s.token, t.IsBrief) :
    (c.connect a).token s = (c.connect a).fetchToken s := by
  have hnone : s.token.filter Token.isFresh = none := by
    rw [Option.filter_eq_none_iff]
    intro t ht hfresh
    exact Token.isFresh_iff.mp hfresh (h t ht)
  simp only [Connection.token, hnone]

theorem next_of_granted (h : ∀ t ∈ s.token, t.IsBrief)
    (hreply : (c.connect a).tokenOf ((c.connect a).tokenReply s.log) = .ok t) :
    c.next s a =
        ⟨s.log ++ (c.connect a).tokenRequests s.log ++
          a.requests (c.connect a) t (s.log ++ (c.connect a).tokenRequests s.log), some t⟩ ∧
      c.gained s a = [t] := by
  have htoken : (c.connect a).token s =
      .ok t ⟨s.log ++ (c.connect a).tokenRequests s.log, some t⟩ := by
    rw [token_of_brief h, Connection.fetchToken_eq, hreply]
  have hnext := next_of_token htoken
  refine ⟨hnext, ?_⟩
  have hlog := congrArg Session.log hnext
  simp only [List.append_assoc] at hlog
  rw [gained_eq hlog, Connection.tokensIn_tokenRequests Attempt.authorization_of_mem_requests,
    hreply]
  rfl

/-- A token that is not granted ends the call, and what is kept stays as it is. -/
theorem attempt_of_denied {fault : AuthFault} (h : ∀ t ∈ s.token, t.IsBrief)
    (hreply : (c.connect a).tokenOf ((c.connect a).tokenReply s.log) = .error fault) :
    c.attempt a s = .error (.auth fault) (c.next s a) ∧
      c.next s a = { s with log := s.log ++ (c.connect a).tokenRequests s.log } ∧
      c.gained s a = [] := by
  have htoken : (c.connect a).token s =
      .error (.auth fault) { s with log := s.log ++ (c.connect a).tokenRequests s.log } := by
    rw [token_of_brief h, Connection.fetchToken_eq, hreply]
  have hattempt := attempt_of_token_eq_error htoken
  have hnext : c.next s a = { s with log := s.log ++ (c.connect a).tokenRequests s.log } := by
    rw [next, hattempt]
    rfl
  refine ⟨by rw [hattempt, hnext], hnext, ?_⟩
  have hlog : (c.next s a).log = s.log ++ ((c.connect a).tokenRequests s.log ++ []) := by
    rw [hnext, List.append_nil]
  rw [gained_eq hlog, Connection.tokensIn_tokenRequests (by simp), hreply]
  rfl

/-- The token that was obtained last is kept, and the ones before it did not last. -/
structure Remembers (s : Session) (obtained : List Token) : Prop where
  last : s.token = obtained.getLast?
  brief : ∀ t ∈ obtained.dropLast, t.IsBrief

namespace Remembers
variable {obtained : List Token}

theorem token_eq (h : Remembers s obtained) (ht : t ∈ obtained) (hlasts : ¬ t.IsBrief) :
    s.token = some t := by
  rcases List.eq_nil_or_concat obtained with rfl | ⟨init, last, rfl⟩
  · cases ht
  · rw [List.concat_eq_append] at ht h
    have hbrief := h.brief
    rw [List.dropLast_concat] at hbrief
    rcases List.mem_append.mp ht with ht | ht
    · exact absurd (hbrief t ht) hlasts
    · rw [h.last, List.getLast?_concat, List.mem_singleton.mp ht]

theorem brief_token (h : Remembers s obtained) (hbrief : ∀ t ∈ obtained, t.IsBrief) :
    ∀ t ∈ s.token, t.IsBrief := by
  intro t ht
  rw [h.last] at ht
  exact hbrief t (List.mem_of_getLast? ht)

/-- A call carries the token that lasts or the one that it is granted. If it has neither, it ends
with the request for one. -/
theorem next_cases (h : Remembers s obtained) (c : Client) (a : Attempt) :
    (∃ t, s.token = some t ∧ c.gained s a = [] ∧
      c.next s a = { s with log := s.log ++ a.requests (c.connect a) t s.log }) ∨
    (∃ t, (∀ t ∈ obtained, t.IsBrief) ∧ c.gained s a = [t] ∧
      c.next s a =
        ⟨s.log ++ (c.connect a).tokenRequests s.log ++
          a.requests (c.connect a) t (s.log ++ (c.connect a).tokenRequests s.log), some t⟩) ∨
    (c.gained s a = [] ∧
      c.next s a = { s with log := s.log ++ (c.connect a).tokenRequests s.log }) := by
  by_cases hbrief : ∀ t ∈ obtained, t.IsBrief
  · have hs := h.brief_token hbrief
    cases hreply : (c.connect a).tokenOf ((c.connect a).tokenReply s.log) with
    | ok t =>
      obtain ⟨hnext, hgained⟩ := next_of_granted hs hreply
      exact .inr (.inl ⟨t, hbrief, hgained, hnext⟩)
    | error fault =>
      obtain ⟨-, hnext, hgained⟩ := attempt_of_denied hs hreply
      exact .inr (.inr ⟨hgained, hnext⟩)
  · obtain ⟨t, ht, hlasts⟩ : ∃ t ∈ obtained, ¬ t.IsBrief := by simpa using hbrief
    have htoken := h.token_eq ht hlasts
    obtain ⟨hnext, hgained⟩ := next_of_lasting (c := c) (a := a) htoken hlasts
    exact .inl ⟨t, htoken, hgained, hnext⟩

theorem next (h : Remembers s obtained) (a : Attempt) :
    Remembers (c.next s a) (obtained ++ c.gained s a) := by
  rcases h.next_cases c a with
    ⟨t, -, hgained, hnext⟩ | ⟨t, hbrief, hgained, hnext⟩ | ⟨hgained, hnext⟩
  · rw [hnext, hgained, List.append_nil]
    exact ⟨h.last, h.brief⟩
  · rw [hnext, hgained]
    constructor
    · rw [List.getLast?_concat]
    · rw [List.dropLast_concat]
      exact hbrief
  · rw [hnext, hgained, List.append_nil]
    exact ⟨h.last, h.brief⟩

/-- The induction on the calls of a run. -/
theorem run (h : Remembers s obtained) (calls : List Attempt) :
    Remembers (c.sessionAfter s calls) (obtained ++ c.obtained s calls) := by
  induction calls generalizing s obtained with
  | nil =>
    rw [Client.obtained, List.append_nil]
    exact h
  | cons a rest ih =>
    have hrest := ih (h.next (c := c) a)
    rw [List.append_assoc] at hrest
    exact hrest

end Remembers

theorem remembers_run (c : Client) (log : List Http.Request) (calls : List Attempt) :
    Remembers (c.sessionAfter { log } calls) (c.obtained { log } calls) := by
  have hstart : Remembers { log } [] := ⟨rfl, by simp⟩
  exact hstart.run calls

theorem tokenRequests_of_reached {k : Connection} {log : List Http.Request}
    (h : k.tokenReply log ≠ .unreachable) :
    ∃ target, k.tokenRequests log = [k.tokenRequest target] := by
  rcases k.received_cases log k.client.tokens.url [] k.tokenRequest with
    ⟨hreply, -⟩ | ⟨target, hone, -⟩
  · exact absurd hreply h
  · exact ⟨target, hone⟩

theorem not_mem_tokenRequests {k : Connection} {log : List Http.Request} {r : Http.Request}
    (h : r.authorization ≠ none) : r ∉ k.tokenRequests log := by
  intro hr
  rcases k.received_cases log k.client.tokens.url [] k.tokenRequest with
    ⟨-, hnone⟩ | ⟨target, hone, -⟩
  · rw [Connection.tokenRequests, hnone] at hr
    cases hr
  · rw [Connection.tokenRequests, hone, List.mem_singleton] at hr
    rw [hr] at h
    exact h rfl

/-- The request of a call carries the token that was obtained last. -/
theorem Remembers.carries_last {obtained : List Token} (h : Remembers s obtained)
    {r : Http.Request} (hr : r ∈ (c.next s a).log.drop s.log.length)
    (hcarries : r.authorization ≠ none) :
    ∃ t target, (obtained ++ c.gained s a).getLast? = some t ∧
      r = Connection.authorized t a.method target a.payload := by
  rcases h.next_cases c a with ⟨t, htoken, hgained, hnext⟩ | ⟨t, -, hgained, hnext⟩ | ⟨-, hnext⟩
  · rw [hnext, List.drop_left] at hr
    obtain ⟨target, htarget⟩ := Attempt.exists_of_mem_requests hr
    exact ⟨t, target, by rw [hgained, List.append_nil, ← h.last, htoken], htarget⟩
  · rw [hnext, List.append_assoc, List.drop_left, List.mem_append] at hr
    have hcalled := hr.resolve_left (not_mem_tokenRequests hcarries)
    obtain ⟨target, htarget⟩ := Attempt.exists_of_mem_requests hcalled
    exact ⟨t, target, by rw [hgained, List.getLast?_concat], htarget⟩
  · rw [hnext, List.drop_left] at hr
    exact absurd hr (not_mem_tokenRequests hcarries)

/--
Calls in a row, each on a control plane that may have changed. Until a token that lasts is obtained,
a call asks for one once, carries what it is granted, and fails without changing what is kept when
it is granted none. To ask is to send one request, unless the endpoint is not reached. Once one that
lasts is obtained, no call asks again and all carry that one. A token is granted by a reply that
succeeds and tells one whose type, if any, is that of a bearer.
-/
theorem tokens_kept (c : Client) (log : List Http.Request) (earlier : List Attempt) (a : Attempt) :
    let k := c.connect a
    let s := c.sessionAfter { log } earlier
    let s' := c.sessionAfter { log } (earlier ++ [a])
    let obtained := c.obtained { log } earlier
    let obtained' := c.obtained { log } (earlier ++ [a])
    ((∀ t ∈ obtained, t.IsBrief) →
      (∀ t, k.tokenOf (k.tokenReply s.log) = .ok t →
        s'.log = s.log ++ k.tokenRequests s.log ++
            a.requests k t (s.log ++ k.tokenRequests s.log) ∧
          obtained' = obtained ++ [t]) ∧
      ∀ fault, k.tokenOf (k.tokenReply s.log) = .error fault →
        c.attempt a s = .error (.auth fault) s' ∧ s'.log = s.log ++ k.tokenRequests s.log ∧
          s'.token = s.token ∧ obtained' = obtained) ∧
    (k.tokenReply s.log ≠ .unreachable →
      ∃ target, k.tokenRequests s.log = [k.tokenRequest target]) ∧
    (∀ t ∈ obtained, ¬ t.IsBrief →
      s'.log = s.log ++ a.requests k t s.log ∧ obtained' = obtained) ∧
    (∀ r ∈ s'.log.drop s.log.length, r.authorization ≠ none →
      ∃ t target, obtained'.getLast? = some t ∧
        r = Connection.authorized t a.method target a.payload) ∧
    (∀ reply t, k.tokenOf reply = .ok t ↔
      ∃ status body type, reply = .complete status body ∧ status.isSuccess ∧
        (Json.parse? body).bind Token.ofJson? = some (t, type) ∧
        ∀ name ∈ type,
          List.Forall₂ (fun c l => c = l ∨ c = l.toUpper) name.toList "bearer".toList) ∧
    ∀ (secret : String) (type : Option String) (seconds : Option UInt64),
      Token.ofJson? (Token.told secret type seconds) =
        some (⟨secret, seconds.map UInt64.toNat⟩, type) := by
  intro k s s' obtained obtained'
  have hkeeps : Remembers s obtained := remembers_run c log earlier
  have hs' : s' = c.next s a := sessionAfter_concat c { log } earlier a
  have hobtained' : obtained' = obtained ++ c.gained s a := obtained_concat c { log } earlier a
  rw [hs', hobtained']
  refine ⟨?asks, tokenRequests_of_reached, ?keeps, ?carries, ?grants, Token.ofJson?_told⟩
  case asks =>
    intro hbrief
    have hs := hkeeps.brief_token hbrief
    constructor
    · intro t hreply
      obtain ⟨hnext, hgained⟩ := next_of_granted hs hreply
      exact ⟨by rw [hnext], by rw [hgained]⟩
    · intro fault hreply
      obtain ⟨hfails, hnext, hgained⟩ := attempt_of_denied hs hreply
      exact ⟨hfails, by rw [hnext], by rw [hnext], by rw [hgained, List.append_nil]⟩
  case keeps =>
    intro t ht hlasts
    obtain ⟨hnext, hgained⟩ := next_of_lasting (c := c) (a := a) (hkeeps.token_eq ht hlasts) hlasts
    exact ⟨by rw [hnext], by rw [hgained, List.append_nil]⟩
  case carries =>
    intro r hr hcarries
    exact hkeeps.carries_last hr hcarries
  case grants =>
    intro reply t
    simp only [← Token.isBearer_iff]
    exact Connection.tokenOf_eq_ok_iff

/-- A call, and the reply that a request for a token gets while it is made. -/
def answering (status : Http.Status) (body : String) : Attempt where
  server _ r := .complete (if r.method = .post then status else 200) (Text.utf8 body.toList)
  method := .get
  url := "http://cp/v1/repos"
  params := []
  payload := .none

def refused : Attempt := answering 401 ""

/-- A token for ten seconds is granted. -/
def brief : Attempt := answering 200 "\x7b\"access_token\":\"t1\",\"expires_in\":10\x7d"

def lasting : Attempt := answering 200 "\x7b\"access_token\":\"t2\",\"expires_in\":11\x7d"

/-- The client that makes the calls. -/
def renewing : Client := .of "http://cp" "a" "b"

theorem target?_renewing (a : Attempt) :
    Url.target? (renewing.connect a).client.tokens.url [] = some "/v1/users/oidc/token" :=
  show Url.target? renewing.tokens.url [] = _ by decide +kernel

theorem tokenReply_answering (status : Http.Status) (body : String) (log : List Http.Request) :
    (renewing.connect (answering status body)).tokenReply log =
      .complete status (Text.utf8 body.toList) := by
  simp only [Connection.tokenReply, Connection.replyTo, target?_renewing]
  rfl

theorem tokenOf_refused (log : List Http.Request) :
    (renewing.connect refused).tokenOf ((renewing.connect refused).tokenReply log) =
      .error (.status 401 "") := by
  rw [refused, tokenReply_answering]
  rfl

theorem tokenOf_granting {secret body : String} {seconds : UInt64} (log : List Http.Request)
    (h : Json.parse? (Text.utf8 body.toList) = some (Token.told secret none (some seconds))) :
    (renewing.connect (answering 200 body)).tokenOf
        ((renewing.connect (answering 200 body)).tokenReply log) =
      .ok ⟨secret, some seconds.toNat⟩ := by
  rw [tokenReply_answering, Connection.tokenOf_eq_ok_iff]
  refine ⟨_, _, none, rfl, rfl, ?_, by simp⟩
  rw [h, Option.bind_some, Token.ofJson?_told]
  rfl

theorem tokenRequests_answering (status : Http.Status) (body : String) (log : List Http.Request) :
    (renewing.connect (answering status body)).tokenRequests log =
      [(renewing.connect refused).tokenRequest "/v1/users/oidc/token"] := by
  simp only [Connection.tokenRequests, Connection.received, target?_renewing]
  rfl

theorem requests_answering (status : Http.Status) (body : String) {t : Token}
    (ht : t.isSendable) (log : List Http.Request) :
    (answering status body).requests (renewing.connect (answering status body)) t log =
      [Connection.authorized t .get "/v1/repos" .none] := by
  have htarget : Url.target? (answering status body).url (answering status body).params =
      some "/v1/repos" :=
    show Url.target? "http://cp/v1/repos" [] = _ by decide +kernel
  simp only [Attempt.requests, if_pos ht, Connection.received, htarget]
  rfl

/-- Of four calls, the first is refused a token and fails. The second and the third obtain one each,
and the last one carries that of the third where it would be refused another. -/
theorem tokens_kept_renewed :
    let ask := (renewing.connect refused).tokenRequest "/v1/users/oidc/token"
    let get (t : Token) := Connection.authorized t .get "/v1/repos" .none
    renewing.attempt refused {} =
        .error (.auth (.status 401 "")) (renewing.sessionAfter {} [refused]) ∧
      renewing.obtained {} [refused, brief, lasting, refused] =
        [⟨"t1", some 10⟩, ⟨"t2", some 11⟩] ∧
      (renewing.sessionAfter {} [refused, brief, lasting, refused]).log =
        [ask, ask, get ⟨"t1", some 10⟩, ask, get ⟨"t2", some 11⟩, get ⟨"t2", some 11⟩] := by
  intro ask get
  have hone : Token.IsBrief ⟨"t1", some 10⟩ := ⟨10, rfl, Nat.le_refl 10⟩
  have htwo : ¬ Token.IsBrief ⟨"t2", some 11⟩ := by simp [Token.IsBrief]
  have hparse₁ : Json.parse? (Text.utf8
      "\x7b\"access_token\":\"t1\",\"expires_in\":10\x7d".toList) =
        some (Token.told "t1" none (some 10)) := by
    cbv
  have hparse₂ : Json.parse? (Text.utf8
      "\x7b\"access_token\":\"t2\",\"expires_in\":11\x7d".toList) =
        some (Token.told "t2" none (some 11)) := by
    cbv
  obtain ⟨hfirst, -⟩ := tokens_kept renewing [] [] refused
  obtain ⟨hfails, hlog₁, -, hobtained₁⟩ :=
    (hfirst (by simp [obtained])).2 (.status 401 "") (tokenOf_refused _)
  have hsent₁ : (renewing.sessionAfter {} [refused]).log = [ask] :=
    hlog₁.trans (tokenRequests_answering 401 "" [])
  obtain ⟨hsecond, -⟩ := tokens_kept renewing [] [refused] brief
  rw [show renewing.obtained {} [refused] = [] from hobtained₁] at hsecond
  obtain ⟨hlog₂, hobtained₂⟩ := (hsecond (by simp)).1 ⟨"t1", some 10⟩ (tokenOf_granting _ hparse₁)
  have hsent₂ : (renewing.sessionAfter {} [refused, brief]).log =
      [ask, ask, get ⟨"t1", some 10⟩] := by
    rw [hsent₁, brief, tokenRequests_answering, requests_answering _ _ (by decide)] at hlog₂
    exact hlog₂
  obtain ⟨hthird, -⟩ := tokens_kept renewing [] [refused, brief] lasting
  rw [show renewing.obtained {} [refused, brief] = [⟨"t1", some 10⟩] from hobtained₂] at hthird
  obtain ⟨hlog₃, hobtained₃⟩ :=
    (hthird (by simpa using hone)).1 ⟨"t2", some 11⟩ (tokenOf_granting _ hparse₂)
  have hsent₃ : (renewing.sessionAfter {} [refused, brief, lasting]).log =
      [ask, ask, get ⟨"t1", some 10⟩, ask, get ⟨"t2", some 11⟩] := by
    rw [hsent₂, lasting, tokenRequests_answering, requests_answering _ _ (by decide)] at hlog₃
    exact hlog₃
  obtain ⟨-, -, hlast, -⟩ := tokens_kept renewing [] [refused, brief, lasting] refused
  have hobtained : renewing.obtained {} [refused, brief, lasting] =
      [⟨"t1", some 10⟩, ⟨"t2", some 11⟩] := hobtained₃
  rw [hobtained] at hlast
  obtain ⟨hlog₄, hobtained₄⟩ := hlast ⟨"t2", some 11⟩ (by simp) htwo
  rw [hsent₃, refused, requests_answering _ _ (by decide)] at hlog₄
  exact ⟨hfails, hobtained₄, hlog₄⟩

end Client
end ControlPlane
