import ControlPlane.Operation
import ControlPlane.Proofs.Client
import ControlPlane.Proofs.Failure

/-! How an operation ends, and what it leaves of a state. -/
namespace ControlPlane

/-- A form feed is blank and separates no lexemes. -/
theorem Json.parse?_eq_none_of_blank {reply : List UInt8} (h : reply.all Text.isBlankByte) :
    Json.parse? reply = none := by
  have hscan : Json.Token.scan? reply = none ∨ Json.Token.scan? reply = some [] := by
    unfold Json.Token.scan? Json.Token.scanFrom
    cases hdrop : reply.dropWhile Json.Token.isSpace with
    | nil =>
      right
      simp
    | cons b rest =>
      left
      have hb : b = 0xC := by
        have hmem : b ∈ reply :=
          (List.dropWhile_sublist Json.Token.isSpace).subset (by simp [hdrop])
        have hblank : Text.isBlankByte b := List.all_eq_true.mp h b hmem
        have hspace : ¬ Json.Token.isSpace b := by
          have hhead := List.head?_dropWhile_not Json.Token.isSpace reply
          simpa [hdrop] using hhead
        simp [Text.isBlankByte, Json.Token.isSpace] at hblank hspace
        tauto
      cases reply with
      | nil => simp at hdrop
      | cons c cs =>
        subst hb
        have hnext : Json.Token.next? 0xC rest = none := rfl
        simp [hnext]
  unfold Json.parse?
  rcases hscan with hscan | hscan <;> rw [hscan] <;> rfl

namespace Operation
variable {S : Type} {op : Operation S} {k : Connection} {s s' : S} {session session' : Session}
  {url : String} {reply : List UInt8}

/-- The state that a reply leads to, if all of it is taken in. -/
def absorb (op : Operation S) (url : String) (reply : List UInt8) (s : S) : Except Failure S :=
  match op.takeIn url reply s with
  | .ok () s => .ok s
  | .error failure _ => .error failure

theorem absorb_eq_ok_iff : op.absorb url reply s = .ok s' ↔ op.takeIn url reply s = .ok () s' := by
  unfold absorb
  cases op.takeIn url reply s <;> simp

/-- The operation goes through: its request is complete and answered, and the reply is taken in. -/
def Applies (op : Operation S) (k : Connection) (s : S) (session : Session) (s' : S)
    (session' : Session) : Prop :=
  ∃ url payload reply, op.url s k.client.baseUrl = .ok url ∧ op.payload s = .ok payload ∧
    k.send op.method url [] payload session = .ok reply session' ∧ op.absorb url reply s = .ok s'

theorem execute_eq_applied_iff :
    op.execute k s session = ⟨.ok .applied, s', session'⟩ ↔
      op.Applies k s session s' session' := by
  unfold execute Applies
  cases hurl : op.url s k.client.baseUrl with
  | error failure => simp
  | ok url =>
    cases hpayload : op.payload s with
    | error failure => simp
    | ok payload =>
      cases hsend : k.send op.method url [] payload session with
      | error failure s₁ =>
        cases haccepts : op.accepts failure <;> simp [hsend, haccepts]
      | ok body s₁ =>
        cases htake : op.takeIn url body s <;>
          simp [hsend, absorb_eq_ok_iff, htake, and_comm]

/-- An object can only be gone where that is an answer, and nothing is written then. -/
theorem accept_of_execute_eq_notFound
    (h : op.execute k s session = ⟨.ok .notFound, s', session'⟩) :
    op.onMissing = .accept ∧ s' = s := by
  unfold execute at h
  cases hurl : op.url s k.client.baseUrl with
  | error failure => simp [hurl] at h
  | ok url =>
    cases hpayload : op.payload s with
    | error failure => simp [hurl, hpayload] at h
    | ok payload =>
      cases hsend : k.send op.method url [] payload session with
      | error failure s₁ =>
        cases haccepts : op.accepts failure with
        | false => simp [hurl, hpayload, hsend, haccepts] at h
        | true =>
          simp only [hurl, hpayload, hsend, haccepts, if_true, Run.mk.injEq] at h
          have hmissing : op.onMissing = .accept := by
            simp only [accepts, Bool.and_eq_true, decide_eq_true_eq] at haccepts
            exact haccepts.1
          exact ⟨hmissing, h.2.1.symm⟩
      | ok body s₁ =>
        cases htake : op.takeIn url body s <;> simp [hurl, hpayload, hsend, htake] at h

theorem absorb_of_response_eq_none (h : op.response = none) : op.absorb url reply s = .ok s := by
  simp only [absorb_eq_ok_iff, takeIn, h]

theorem absorb_of_blank (h : reply.all Text.isBlankByte) : op.absorb url reply s = .ok s := by
  rw [absorb_eq_ok_iff]
  unfold takeIn
  cases op.response <;> simp [h]

/-- A reply that reads as `j` makes `s'` of `s`. -/
def Writes (op : Operation S) (j : Json) (s s' : S) : Prop :=
  match op.response with
  | none => s' = s
  | some response => ∃ write, response j = some write ∧ write s = .ok () s'

theorem writes_iff_of_response_eq_none {j : Json} (h : op.response = none) :
    op.Writes j s s' ↔ s' = s := by
  simp only [Writes, h]

theorem writes_iff_of_response_eq_map {R : Type} {read : Json → Option R}
    {write : R → Writer S Unit} {j : Json}
    (h : op.response = some fun j => (read j).map write) :
    op.Writes j s s' ↔ ∃ r, read j = some r ∧ write r s = .ok () s' := by
  simp only [Writes, h]
  cases read j <;> simp

theorem writes_iff_of_response_eq_of {R : Type} {read : Json → Option R} {write : R → S → S}
    {j : Json} (h : op.response = some (.of read write)) :
    op.Writes j s s' ↔ ∃ r, read j = some r ∧ s' = write r s := by
  rw [writes_iff_of_response_eq_map h]
  refine exists_congr fun r => and_congr_right fun _ => ?_
  change EStateM.Result.ok () (write r s) = .ok () s' ↔ _
  simp [eq_comm]

theorem Writes.of_absorb (hb : ¬ reply.all Text.isBlankByte)
    (h : op.absorb url reply s = .ok s') :
    ∃ j, op.Writes j s s' ∧ (op.response.isSome → Json.parse? reply = some j) := by
  rw [absorb_eq_ok_iff] at h
  unfold takeIn at h
  unfold Writes
  cases hr : op.response with
  | none =>
    simp only [hr, EStateM.Result.ok.injEq, true_and] at h
    exact ⟨.null, h.symm, by simp⟩
  | some response =>
    simp only [hr, if_neg hb] at h
    cases hj : Json.parse? reply with
    | none => simp [hj] at h
    | some j =>
      cases hw : response j with
      | none => simp [hj, hw] at h
      | some write =>
        simp only [hj, Option.bind_some, hw] at h
        exact ⟨j, ⟨write, hw, h⟩, fun _ => rfl⟩

theorem absorb_of_writes {j : Json} (hr : op.response.isSome) (hj : Json.parse? reply = some j)
    (hw : op.Writes j s s') : op.absorb url reply s = .ok s' := by
  have hb : ¬ reply.all Text.isBlankByte := by
    intro h
    rw [Json.parse?_eq_none_of_blank h] at hj
    contradiction
  obtain ⟨response, hresponse⟩ := Option.isSome_iff_exists.mp hr
  simp only [Writes, hresponse] at hw
  obtain ⟨write, hwrite, hs⟩ := hw
  rw [absorb_eq_ok_iff]
  simp only [takeIn, hresponse, if_neg hb, hj, Option.bind_some, hwrite, hs]

end Operation
end ControlPlane
