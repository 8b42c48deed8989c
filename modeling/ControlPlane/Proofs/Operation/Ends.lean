import ControlPlane.Proofs.Calls
import ControlPlane.Proofs.Operation

/-!
How operations end. An operation is one request at most, and it does all of its work or none if its
writer fails before it writes.
-/
namespace ControlPlane

/-- A writer that fails leaves the state as it found it. -/
def Writer.Clean {S : Type} (write : Writer S Unit) : Prop :=
  ∀ s failure s', write s = .error failure s' → s' = s

/-- Whatever a reply tells, it is written by a clean writer. -/
def Response.Clean {S : Type} (response : Response S) : Prop :=
  ∀ j, ∀ write ∈ response j, Writer.Clean write

theorem Writer.Clean.of_modify {S : Type} (f : S → S) : Writer.Clean (modify f) := by
  intro s failure s' h
  change EStateM.Result.ok () (f s) = .error failure s' at h
  cases h

/-- A writer is clean if the first of its steps is the only one that can fail. -/
theorem Writer.Clean.of_first {S A : Type} {first : S → Except Failure A} {rest : A → Writer S Unit}
    (hrest : ∀ a s failure s', rest a s ≠ .error failure s') :
    Writer.Clean (get >>= fun s => liftExcept (first s) >>= rest) := by
  intro s failure s' h
  have hbind : (get >>= fun s => liftExcept (first s) >>= rest : Writer S Unit) s =
      (liftExcept (first s) >>= rest : Writer S Unit) s := rfl
  rw [hbind] at h
  cases hfirst : first s with
  | error e =>
    rw [hfirst] at h
    cases h
    rfl
  | ok a =>
    rw [hfirst] at h
    exact absurd h (hrest a s failure s')

theorem Response.Clean.map {S R : Type} {read : Json → Option R} {write : R → Writer S Unit}
    (h : ∀ r, Writer.Clean (write r)) : Response.Clean fun j => (read j).map write := by
  intro j w hw
  obtain ⟨r, -, rfl⟩ := Option.map_eq_some_iff.mp hw
  exact h r

theorem Response.Clean.of {S R : Type} (read : Json → Option R) (write : R → S → S) :
    Response.Clean (.of read write) :=
  .map fun r => .of_modify (write r)

namespace Operation
variable {S : Type} {op : Operation S} {k : Connection} {s s' : S} {session session' : Session}

theorem clean_takeIn (h : ∀ response ∈ op.response, Response.Clean response) (url : String)
    (reply : List UInt8) : Writer.Clean (op.takeIn url reply) := by
  intro s failure s' htake
  unfold takeIn at htake
  split at htake
  · cases htake
  · next response hresponse =>
    split_ifs at htake with hblank
    · split at htake
      · cases htake
        rfl
      · next write hwrite =>
        obtain ⟨j, -, hj⟩ := Option.bind_eq_some_iff.mp hwrite
        exact h response hresponse j write hj s failure s' htake

/-- The address and the payload of the request. -/
def request (op : Operation S) (s : S) (base : String) :
    Except Failure (String × Http.Payload) := do
  let url ← op.url s base
  let payload ← op.payload s
  return (url, payload)

theorem request_eq_ok_iff {base url : String} {payload : Http.Payload} :
    op.request s base = .ok (url, payload) ↔
      op.url s base = .ok url ∧ op.payload s = .ok payload := by
  unfold request
  cases op.url s base with
  | error failure => simp
  | ok a => cases op.payload s <;> simp

/-- All that an operation can come to. -/
inductive Ends (op : Operation S) (k : Connection) (s : S) (session : Session) : Run S → Prop
  | incomplete {failure : Failure} (h : op.request s k.client.baseUrl = .error failure) :
    Ends op k s session ⟨.error failure, s, session⟩
  | gone {url : String} {payload : Http.Payload} {failure : Failure} {session' : Session}
    (h : op.request s k.client.baseUrl = .ok (url, payload))
    (hsend : k.send op.method url [] payload session = .error failure session')
    (haccepts : op.accepts failure) : Ends op k s session ⟨.ok .notFound, s, session'⟩
  | refused {url : String} {payload : Http.Payload} {failure : Failure} {session' : Session}
    (h : op.request s k.client.baseUrl = .ok (url, payload))
    (hsend : k.send op.method url [] payload session = .error failure session')
    (haccepts : ¬ op.accepts failure) : Ends op k s session ⟨.error failure, s, session'⟩
  | untaken {url : String} {payload : Http.Payload} {reply : List UInt8} {failure : Failure}
    {s' : S} {session' : Session} (h : op.request s k.client.baseUrl = .ok (url, payload))
    (hsend : k.send op.method url [] payload session = .ok reply session')
    (htake : op.takeIn url reply s = .error failure s') :
    Ends op k s session ⟨.error failure, s', session'⟩
  | applied {url : String} {payload : Http.Payload} {reply : List UInt8} {s' : S}
    {session' : Session} (h : op.request s k.client.baseUrl = .ok (url, payload))
    (hsend : k.send op.method url [] payload session = .ok reply session')
    (htake : op.takeIn url reply s = .ok () s') :
    Ends op k s session ⟨.ok .applied, s', session'⟩

theorem ends_execute (op : Operation S) (k : Connection) (s : S) (session : Session) :
    op.Ends k s session (op.execute k s session) := by
  unfold execute
  cases hurl : op.url s k.client.baseUrl with
  | error failure => exact .incomplete (by simp only [request, hurl, error_bind])
  | ok url =>
    cases hpayload : op.payload s with
    | error failure =>
      exact .incomplete (by simp only [request, hurl, hpayload, ok_bind, error_bind])
    | ok payload =>
      have hrequest := request_eq_ok_iff.mpr ⟨hurl, hpayload⟩
      cases hsend : k.send op.method url [] payload session with
      | error failure session' =>
        simp only [hsend]
        split_ifs with haccepts
        · exact .gone hrequest hsend haccepts
        · exact .refused hrequest hsend haccepts
      | ok reply session' =>
        simp only [hsend]
        cases htake : op.takeIn url reply s with
        | error failure s' => exact .untaken hrequest hsend htake
        | ok a s' => exact .applied hrequest hsend htake

theorem execute_of_request_eq_error {failure : Failure}
    (h : op.request s k.client.baseUrl = .error failure) :
    op.execute k s session = ⟨.error failure, s, session⟩ := by
  have hends := op.ends_execute k s session
  generalize op.execute k s session = run at hends ⊢
  cases hends with
  | incomplete h' =>
    cases h.symm.trans h'
    rfl
  | gone h' | refused h' | untaken h' | applied h' => cases h.symm.trans h'

end Operation

namespace Operation
variable {S : Type} {op : Operation S} {k : Connection} {s : S} {session : Session}

/-- All or nothing: a request that lacks an attribute is not sent, one that is complete is sent once
at most, and the state is only written when all went well. -/
structure Atomic (op : Operation S) (k : Connection) (s : S) (session : Session) : Prop where
  incomplete {failure : Failure} (h : op.request s k.client.baseUrl = .error failure) :
    (∃ name, failure = .missingAttribute name) ∧
      op.execute k s session = ⟨.error failure, s, session⟩
  once {url : String} {payload : Http.Payload}
    (h : op.request s k.client.baseUrl = .ok (url, payload)) :
    k.CallsOnce op.method url [] payload session (op.execute k s session).session
  untouched (h : (op.execute k s session).outcome ≠ .ok .applied) :
    (op.execute k s session).state = s

theorem callsOnce_execute {url : String} {payload : Http.Payload}
    (h : op.request s k.client.baseUrl = .ok (url, payload)) :
    k.CallsOnce op.method url [] payload session (op.execute k s session).session := by
  have hcalls := (k.sends_send op.method url [] payload session).callsOnce
  have hends := op.ends_execute k s session
  generalize op.execute k s session = run at hends ⊢
  cases hends with
  | incomplete h' => cases h.symm.trans h'
  | gone h' hsend | refused h' hsend | untaken h' hsend | applied h' hsend =>
    cases h.symm.trans h'
    rw [hsend] at hcalls
    exact hcalls

theorem state_execute_of_clean (hclean : ∀ response ∈ op.response, Response.Clean response)
    (h : (op.execute k s session).outcome ≠ .ok .applied) :
    (op.execute k s session).state = s := by
  have hends := op.ends_execute k s session
  generalize op.execute k s session = run at hends h ⊢
  cases hends with
  | incomplete | gone | refused => rfl
  | untaken _ _ htake => exact clean_takeIn hclean _ _ _ _ _ htake
  | applied => exact absurd rfl h

theorem atomic_of_clean (hneeds : NeedsAttributes (op.request s k.client.baseUrl))
    (hclean : ∀ response ∈ op.response, Response.Clean response) : op.Atomic k s session where
  incomplete h := ⟨hneeds _ h, execute_of_request_eq_error h⟩
  once := callsOnce_execute
  untouched := state_execute_of_clean hclean

end Operation
end ControlPlane
