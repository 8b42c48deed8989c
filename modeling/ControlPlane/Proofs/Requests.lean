import ControlPlane.Listing
import ControlPlane.Proofs.Calls
import ControlPlane.Proofs.Operation.Ends

/-! Where requests go. Calls that are made of others reach the targets that those reach. -/
namespace ControlPlane
variable {α β : Type} {k : Connection} {T : String → Prop}

/-- The requests between two sessions are for targets of a kind. -/
def Session.Reaches (T : String → Prop) (s s' : Session) : Prop :=
  ∃ asked : List Http.Request, s'.log = s.log ++ asked ∧ ∀ r ∈ asked, T r.target

namespace Session.Reaches
variable {s s₁ s' : Session}

theorem of_log_eq (h : s'.log = s.log) : s.Reaches T s' :=
  ⟨[], by rw [h, List.append_nil], by simp⟩

theorem trans (h : s.Reaches T s₁) (h' : s₁.Reaches T s') : s.Reaches T s' := by
  obtain ⟨asked, hlog, hasked⟩ := h
  obtain ⟨asked', hlog', hasked'⟩ := h'
  refine ⟨asked ++ asked', ?_, List.forall_mem_append.mpr ⟨hasked, hasked'⟩⟩
  rw [hlog', hlog, List.append_assoc]

theorem of_callsOnce {method : Http.Method} {url : String} {params : List (String × String)}
    {payload : Http.Payload} (h : k.CallsOnce method url params payload s s')
    (htoken : ∀ t ∈ Url.target? k.client.tokens.url [], T t)
    (hcall : ∀ t ∈ Url.target? url params, T t) : s.Reaches T s' := by
  obtain ⟨asked, called, hlog, -, -, hasked, hcalled⟩ := h
  refine ⟨asked ++ called, by rw [hlog, List.append_assoc], List.forall_mem_append.mpr ⟨?_, ?_⟩⟩
  · intro r hr
    obtain ⟨target, htarget, rfl⟩ := hasked r hr
    exact htoken target htarget
  · intro r hr
    obtain ⟨_, _, target, -, htarget, rfl⟩ := hcalled r hr
    exact hcall target htarget

end Session.Reaches

/-- All requests of a call are for targets of a kind. -/
def Call.Reaches (T : String → Prop) (x : Call α) : Prop :=
  ∀ s : Session, s.Reaches T (Session.after (x s))

namespace Call.Reaches

theorem pure (a : α) : Call.Reaches T (pure a) :=
  fun _ => .of_log_eq rfl

theorem throw (failure : Failure) : Call.Reaches T (throw failure : Call α) :=
  fun _ => .of_log_eq rfl

theorem liftExcept (x : Except Failure α) : Call.Reaches T (liftExcept x : Call α) := by
  cases x with
  | error failure => exact throw failure
  | ok a => exact pure a

theorem bind {x : Call α} {f : α → Call β} (hx : Call.Reaches T x)
    (hf : ∀ a, Call.Reaches T (f a)) : Call.Reaches T (x >>= f) := by
  intro s
  have h := hx s
  change s.Reaches T (Session.after (EStateM.bind x f s))
  unfold EStateM.bind
  cases hrun : x s with
  | error failure s₁ =>
    rw [hrun] at h
    exact h
  | ok a s₁ =>
    rw [hrun] at h
    exact h.trans (hf a s₁)

theorem send (htoken : ∀ t ∈ Url.target? k.client.tokens.url [], T t) (method : Http.Method)
    {url : String} {params : List (String × String)} (payload : Http.Payload)
    (hcall : ∀ t ∈ Url.target? url params, T t) :
    Call.Reaches T (k.send method url params payload) :=
  fun s => .of_callsOnce (k.sends_send method url params payload s).callsOnce htoken hcall

theorem getJson (htoken : ∀ t ∈ Url.target? k.client.tokens.url [], T t) {url : String}
    {params : List (String × String)} (read : Json → Option α)
    (hcall : ∀ t ∈ Url.target? url params, T t) :
    Call.Reaches T (k.getJson url params read) := by
  intro s
  have h := send htoken .get .none hcall s
  unfold Connection.getJson
  cases hsend : k.send .get url params .none s with
  | error failure s₁ =>
    rw [hsend] at h
    exact h
  | ok body s₁ =>
    rw [hsend] at h
    simp only
    split <;> exact h

/-- Whatever cursors a listing follows, it stays at its address. -/
theorem items (htoken : ∀ t ∈ Url.target? k.client.tokens.url [], T t) (l : Listing α)
    (hcall : ∀ params, ∀ t ∈ Url.target? l.url params, T t) : Call.Reaches T (l.items k) := by
  have hpages := Listing.itemsAfter?.partial_correctness l k
    (fun _ _ s result => s.Reaches T (Session.after result)) ?_
  · intro s
    unfold Listing.items
    cases h : l.itemsAfter? k none [] s with
    | none => exact .of_log_eq rfl
    | some result => exact hpages none [] s result h
  · intro itemsAfter? ih after seen s result hresult
    have hpage := getJson htoken l.page (hcall (l.params after)) s
    cases hget : k.getJson l.url (l.params after) l.page s with
    | error failure s₁ =>
      rw [hget] at hpage hresult
      obtain rfl := Option.some.inj hresult
      exact hpage
    | ok items s₁ =>
      rw [hget] at hpage hresult
      simp only at hresult
      cases hnext : l.next? seen items with
      | none =>
        rw [hnext] at hresult
        obtain rfl := Option.some.inj hresult
        exact hpage
      | some cursor =>
        rw [hnext] at hresult
        obtain ⟨rest, hrest, hresult⟩ := Option.bind_eq_some_iff.mp hresult
        have hafter := hpage.trans (ih _ _ _ _ hrest)
        cases rest <;> obtain rfl := Option.some.inj hresult <;> exact hafter

end Call.Reaches

theorem Operation.reaches_execute {S : Type} {op : Operation S} {s : S} {url : String}
    (hurl : op.url s k.client.baseUrl = .ok url)
    (htoken : ∀ t ∈ Url.target? k.client.tokens.url [], T t)
    (hcall : ∀ t ∈ Url.target? url [], T t) (session : Session) :
    session.Reaches T (op.execute k s session).session := by
  cases hrequest : op.request s k.client.baseUrl with
  | error failure =>
    rw [execute_of_request_eq_error hrequest]
    exact .of_log_eq rfl
  | ok request =>
    obtain ⟨url', payload⟩ := request
    obtain rfl := Except.ok.inj (hurl.symm.trans (request_eq_ok_iff.mp hrequest).1)
    exact .of_callsOnce (callsOnce_execute hrequest) htoken hcall

end ControlPlane
