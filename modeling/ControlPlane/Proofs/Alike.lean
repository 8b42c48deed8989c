import ControlPlane.Http.Script
import ControlPlane.Listing
import ControlPlane.Proofs.Client

/-!
Two runs beside each other. Runs that send the same requests, but for what some of them carry, are
told the same by a server that does not look at what requests carry, and go on alike.
-/
namespace ControlPlane

namespace Http

/-- A request without what it carries. -/
def Request.bare (r : Request) : Request := { r with payload := .none }

/-- The replies of the server do not hang on what requests carry. -/
def Server.IgnoresPayloads (server : Server) : Prop :=
  ∀ log log' r r', log'.map Request.bare = log.map Request.bare → r'.bare = r.bare →
    server log' r' = server log r

/-- Which requests count as the same. They may differ in what they carry only. -/
structure Likeness where
  rel : Request → Request → Prop
  refl (r : Request) : rel r r
  bare_eq {r r' : Request} (h : rel r r') : r'.bare = r.bare

namespace Likeness

def flip (l : Likeness) : Likeness where
  rel r r' := l.rel r' r
  refl := l.refl
  bare_eq h := (l.bare_eq h).symm

/-- Payloads that make no difference to any request. -/
def Carries (l : Likeness) (payload payload' : Payload) : Prop :=
  ∀ r : Request, l.rel { r with payload := payload } { r with payload := payload' }

theorem Carries.refl (l : Likeness) (payload : Payload) : l.Carries payload payload :=
  fun _ => l.refl _

theorem map_bare_eq {l : Likeness} {log log' : List Request} (h : List.Forall₂ l.rel log log') :
    log'.map Request.bare = log.map Request.bare := by
  induction h with
  | nil => rfl
  | cons hr _ ih => rw [List.map_cons, List.map_cons, l.bare_eq hr, ih]

end Likeness

theorem Script.ignoresPayloads (script : Script) : script.server.IgnoresPayloads := by
  intro log log' r r' hlog hr
  have hmethod : r'.bare.method = r.bare.method := congrArg Request.method hr
  have htarget : r'.bare.target = r.bare.target := congrArg Request.target hr
  simp only [Request.bare] at hmethod htarget
  have hroute : r'.route = r.route := by rw [Request.route, Request.route, hmethod, htarget]
  have hcount (log : List Request) (p : String → Bool) :
      log.countP (fun r => p r.route) = (log.map Request.bare).countP fun r => p r.route := by
    rw [List.countP_map]
    rfl
  have hearlier (route : String) : log'.countP (fun r => decide (r.route = route)) =
      log.countP fun r => decide (r.route = route) := by
    rw [hcount log' fun a => decide (a = route), hlog, ← hcount log fun a => decide (a = route)]
  simp only [Script.server, hmethod, hroute, hearlier]

end Http

open Http (Likeness)

variable {L : Likeness} {ε α β : Type}

/-- Sessions with the same token, whose requests count as the same one by one. -/
structure Session.Alike (L : Likeness) (s s' : Session) : Prop where
  token : s'.token = s.token
  log : List.Forall₂ L.rel s.log s'.log

namespace Session.Alike

theorem flip {s s' : Session} (h : s.Alike L s') : s'.Alike L.flip s where
  token := h.token.symm
  log := h.log.flip

theorem refl (s : Session) : s.Alike L s where
  token := rfl
  log := List.forall₂_same.mpr fun r _ => L.refl r

end Session.Alike

/-- Two ends of a call: one failure, or values that go together, and sessions that are alike. -/
inductive EndAlike (L : Likeness) (V : α → β → Prop) :
    EStateM.Result ε Session α → EStateM.Result ε Session β → Prop
  | ok {a : α} {b : β} {s s' : Session} (hv : V a b) (hs : s.Alike L s') :
    EndAlike L V (.ok a s) (.ok b s')
  | error (e : ε) {s s' : Session} (hs : s.Alike L s') : EndAlike L V (.error e s) (.error e s')

/-- Two calls that end alike in sessions that are alike. -/
def RunAlike (L : Likeness) (V : α → β → Prop) (x : EStateM ε Session α)
    (y : EStateM ε Session β) : Prop :=
  ∀ s s' : Session, s.Alike L s' → EndAlike L V (x s) (y s')

namespace RunAlike
variable {γ δ : Type} {V : α → β → Prop} {W : γ → δ → Prop} {x : EStateM ε Session α}
  {y : EStateM ε Session β}

theorem pure {a : α} {b : β} (h : V a b) :
    RunAlike L V (pure a : EStateM ε Session α) (pure b : EStateM ε Session β) :=
  fun _ _ hs => .ok h hs

theorem throw (e : ε) :
    RunAlike L V (throw e : EStateM ε Session α) (throw e : EStateM ε Session β) :=
  fun _ _ hs => .error e hs

theorem liftExcept (x : Except Failure α) :
    RunAlike L Eq (liftExcept x : Call α) (liftExcept x : Call α) := by
  cases x with
  | error failure => exact throw failure
  | ok a => exact pure rfl

theorem bind {f : α → EStateM ε Session γ} {g : β → EStateM ε Session δ} (h : RunAlike L V x y)
    (hf : ∀ a b, V a b → RunAlike L W (f a) (g b)) : RunAlike L W (x >>= f) (y >>= g) := by
  intro s s' hs
  have hend := h s s' hs
  change EndAlike L W (EStateM.bind x f s) (EStateM.bind y g s')
  unfold EStateM.bind
  generalize x s = r, y s' = r' at hend
  cases hend with
  | ok hv hs => exact hf _ _ hv _ _ hs
  | error e hs => exact .error e hs

theorem bind_eq {x y : EStateM ε Session α} {f : α → EStateM ε Session γ}
    {g : α → EStateM ε Session δ} (h : RunAlike L Eq x y) (hf : ∀ a, RunAlike L W (f a) (g a)) :
    RunAlike L W (x >>= f) (y >>= g) := by
  refine h.bind ?_
  rintro a _ rfl
  exact hf a

end RunAlike

/-- Connections of two clients to one server, which tells them apart by what token requests carry
only. -/
structure Connection.Alike (L : Likeness) (k k' : Connection) : Prop where
  server : k'.server = k.server
  ignores : k.server.IgnoresPayloads
  baseUrl : k'.client.baseUrl = k.client.baseUrl
  tokenUrl : k'.client.tokens.url = k.client.tokens.url
  tokenRequest (target : String) (h : Url.target? k.client.tokens.url [] = some target) :
    L.rel (k.tokenRequest target) (k'.tokenRequest target)

namespace Connection.Alike
variable {k k' : Connection} {s s' : Session}

theorem refl (k : Connection) (h : k.server.IgnoresPayloads) : k.Alike L k where
  server := rfl
  ignores := h
  baseUrl := rfl
  tokenUrl := rfl
  tokenRequest _ _ := L.refl _

theorem flip (h : k.Alike L k') : k'.Alike L.flip k where
  server := h.server.symm
  ignores := by rw [h.server]; exact h.ignores
  baseUrl := h.baseUrl.symm
  tokenUrl := h.tokenUrl.symm
  tokenRequest target ht := h.tokenRequest target (by rw [← h.tokenUrl]; exact ht)

theorem url (h : k.Alike L k') (path : String) : k'.client.url path = k.client.url path :=
  congrArg (· ++ path) h.baseUrl

theorem exchange (h : k.Alike L k') (hs : s.Alike L s') (method : Http.Method) {url : String}
    {params : List (String × String)} (authorization : Option String)
    {payload payload' : Http.Payload}
    (hrel : ∀ target, Url.target? url params = some target →
      L.rel ⟨method, target, authorization, payload⟩ ⟨method, target, authorization, payload'⟩) :
    (k'.exchange method url params authorization payload' s').1 =
        (k.exchange method url params authorization payload s).1 ∧
      (k.exchange method url params authorization payload s).2.Alike L
        (k'.exchange method url params authorization payload' s').2 := by
  unfold Connection.exchange
  cases htarget : Url.target? url params with
  | none => exact ⟨rfl, hs⟩
  | some target =>
    have hreply : k'.server s'.log ⟨method, target, authorization, payload'⟩ =
        k.server s.log ⟨method, target, authorization, payload⟩ := by
      rw [h.server]
      exact h.ignores _ _ _ _ (Likeness.map_bare_eq hs.log) (L.bare_eq (hrel target htarget))
    have hlogged : Session.Alike L
        { s with log := s.log ++ [⟨method, target, authorization, payload⟩] }
        { s' with log := s'.log ++ [⟨method, target, authorization, payload'⟩] } :=
      ⟨hs.token, List.rel_append hs.log (.cons (hrel target htarget) .nil)⟩
    simp only [hreply]
    cases k.server s.log ⟨method, target, authorization, payload⟩ with
    | unreachable => exact ⟨rfl, hs⟩
    | dropped | truncated | complete => exact ⟨rfl, hlogged⟩

theorem tokenOf (h : k.Alike L k') (reply : Http.Reply) : k'.tokenOf reply = k.tokenOf reply := by
  unfold Connection.tokenOf
  rw [h.tokenUrl]

theorem fetchToken (h : k.Alike L k') : RunAlike L Eq k.fetchToken k'.fetchToken := by
  intro s s' hs
  obtain ⟨hreply, hsession⟩ := h.exchange hs .post none h.tokenRequest
  unfold Connection.fetchToken
  rw [h.tokenUrl]
  simp only
  generalize k.exchange _ _ _ _ _ s = sent, k'.exchange _ _ _ _ _ s' = sent' at hreply hsession ⊢
  obtain ⟨reply, s₁⟩ := sent
  obtain ⟨_, s₁'⟩ := sent'
  obtain rfl := hreply
  simp only [h.tokenOf]
  cases k.tokenOf _ with
  | error fault => exact .error _ hsession
  | ok token => exact .ok rfl ⟨rfl, hsession.log⟩

theorem token (h : k.Alike L k') : RunAlike L Eq k.token k'.token := by
  intro s s' hs
  unfold Connection.token
  rw [hs.token]
  cases s.token.filter Token.isFresh with
  | none => exact h.fetchToken s s' hs
  | some token => exact .ok rfl hs

theorem send (h : k.Alike L k') (method : Http.Method) (url : String)
    (params : List (String × String)) {payload payload' : Http.Payload}
    (hp : L.Carries payload payload') :
    RunAlike L Eq (k.send method url params payload) (k'.send method url params payload') := by
  intro s s' hs
  have htoken := h.token s s' hs
  unfold Connection.send
  generalize k.token s = r, k'.token s' = r' at htoken ⊢
  cases htoken with
  | error failure hs => exact .error failure hs
  | @ok token _ s₁ s₁' hv hs =>
    obtain rfl := hv
    simp only
    split_ifs with hsendable
    · have hrel (target : String) (_ : Url.target? url params = some target) :=
        hp ⟨method, target, some s!"Bearer {token.secret}", payload⟩
      obtain ⟨hreply, hsession⟩ := h.exchange hs method _ hrel
      generalize k.exchange _ _ _ _ _ s₁ = sent, k'.exchange _ _ _ _ _ s₁' = sent'
        at hreply hsession ⊢
      obtain ⟨reply, s₂⟩ := sent
      obtain ⟨_, s₂'⟩ := sent'
      obtain rfl := hreply
      simp only
      cases Connection.bodyOf method url _ with
      | error failure => exact .error failure hsession
      | ok body => exact .ok rfl hsession
    · exact .error _ hs

theorem getJson (h : k.Alike L k') (url : String) (params : List (String × String))
    (read : Json → Option α) :
    RunAlike L Eq (k.getJson url params read) (k'.getJson url params read) := by
  intro s s' hs
  have hsend := h.send .get url params (.refl L .none) s s' hs
  unfold Connection.getJson
  generalize k.send .get url params .none s = r, k'.send .get url params .none s' = r' at hsend ⊢
  cases hsend with
  | error failure hs => exact .error failure hs
  | @ok body _ s₁ s₁' hv hs =>
    obtain rfl := hv
    simp only
    cases (Json.parse? body).bind read with
    | none => exact .error _ hs
    | some a => exact .ok rfl hs

theorem itemsAfter? (h : k.Alike L k') (l : Listing α) (after : Option String)
    (seen : List String) (s : Session) (r : EStateM.Result Failure Session (List α))
    (hr : l.itemsAfter? k after seen s = some r) (s' : Session) (hs : s.Alike L s') :
    ∃ r', l.itemsAfter? k' after seen s' = some r' ∧ EndAlike L Eq r r' := by
  revert s'
  refine Listing.itemsAfter?.partial_correctness l k
    (fun after seen s r => ∀ s', s.Alike L s' →
      ∃ r', l.itemsAfter? k' after seen s' = some r' ∧ EndAlike L Eq r r') ?_ after seen s r hr
  intro itemsAfter? ih after seen s r hr s' hs
  rw [Listing.itemsAfter?]
  have hpage := h.getJson l.url (l.params after) l.page s s' hs
  generalize k.getJson l.url (l.params after) l.page s = page,
    k'.getJson l.url (l.params after) l.page s' = page' at hpage hr ⊢
  cases hpage with
  | error failure hs =>
    obtain rfl := Option.some.inj hr
    exact ⟨_, rfl, .error failure hs⟩
  | @ok items _ s₁ s₁' hv hs =>
    obtain rfl := hv
    simp only at hr ⊢
    cases hnext : l.next? seen items with
    | none =>
      rw [hnext] at hr
      obtain rfl := Option.some.inj hr
      exact ⟨_, rfl, .ok rfl hs⟩
    | some cursor =>
      rw [hnext] at hr
      obtain ⟨rest, hrest, hr⟩ := Option.bind_eq_some_iff.mp hr
      obtain ⟨rest', hrest', hend⟩ := ih _ _ _ _ hrest s₁' hs
      simp only [hrest', Option.bind_eq_bind, Option.bind_some]
      cases hend with
      | error failure hs =>
        obtain rfl := Option.some.inj hr
        exact ⟨_, rfl, .error failure hs⟩
      | ok hv hs =>
        obtain rfl := hv
        obtain rfl := Option.some.inj hr
        exact ⟨_, rfl, .ok rfl hs⟩

theorem items (h : k.Alike L k') (l : Listing α) : RunAlike L Eq (l.items k) (l.items k') := by
  intro s s' hs
  unfold Listing.items
  cases hitems : l.itemsAfter? k none [] s with
  | some r =>
    obtain ⟨r', hr', hend⟩ := h.itemsAfter? l none [] s r hitems s' hs
    rw [hr']
    exact hend
  | none =>
    have hitems' : l.itemsAfter? k' none [] s' = none := by
      refine Option.eq_none_iff_forall_ne_some.mpr fun r' hr' => ?_
      obtain ⟨r, hr, -⟩ := h.flip.itemsAfter? l none [] s' r' hr' s hs.flip
      rw [hitems] at hr
      cases hr
    rw [hitems']
    exact .error _ hs

end Connection.Alike
end ControlPlane
