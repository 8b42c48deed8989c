import ControlPlane.Proofs.Lifecycle

/-!
An object that is read again and again. Each read that keeps the object writes what its reply tells
over the state that the reads before it left.
-/
namespace ControlPlane

/-- A control plane that answers all in one way. -/
def Connection.replying (reply : List UInt8) : Connection where
  client := .of "http://cp" "a" "b"
  server _ _ := .complete 200 reply

/-- What the replies told, the oldest first. A reply without content tells nothing. -/
def tellings {R : Type} (read : Json → Option R) (replies : List (List UInt8)) : List R :=
  replies.filterMap fun reply => (Json.parse? reply).bind read

theorem tellings_cons {R : Type} (read : Json → Option R) (reply : List UInt8)
    (replies : List (List UInt8)) : tellings read (reply :: replies) =
      ((Json.parse? reply).bind read).toList ++ tellings read replies := by
  unfold tellings
  cases h : (Json.parse? reply).bind read with
  | none =>
    rw [List.filterMap_cons, h]
    rfl
  | some told =>
    rw [List.filterMap_cons, h]
    rfl

namespace Resource
variable {S R : Type} {r : Resource S} {read : Json → Option R} {refresh : R → S → S}
  {s s' : S} {reply : List UInt8} {replies : List (List UInt8)}

/-- Reads of an object, one after the other and by any connections, with what was replied. -/
inductive Reads (r : Resource S) : S → List (List UInt8) → S → Prop
  | nil (s : S) : Reads r s [] s
  | cons {s s₁ s' : S} {reply : List UInt8} {replies : List (List UInt8)} {k : Connection}
      {kept kept' : Field Unit} {session session' : Session} {status : Http.Status}
      (run : r.readObject (some k) ⟨.known s, kept⟩ session = .ok ⟨.known s₁, kept'⟩ session')
      (last : k.lastReply? session' = some (.complete status reply))
      (rest : Reads r s₁ replies s') : Reads r s (reply :: replies) s'

/-- A read either tells nothing and leaves the state, or it writes what it tells. -/
theorem refresh_of_readObject (hread : r.read.response = some (.of read refresh)) {k : Connection}
    {kept kept' : Field Unit} {session session' : Session} {status : Http.Status}
    (run : r.readObject (some k) ⟨.known s, kept⟩ session = .ok ⟨.known s', kept'⟩ session')
    (last : k.lastReply? session' = some (.complete status reply)) :
    s' = ((Json.parse? reply).bind read).elim s fun told => refresh told s := by
  rcases writes_or_eq_of_readObject run last with ⟨hblank, rfl⟩ | ⟨j, hw, hparse⟩
  · rw [Json.parse?_eq_none_of_blank hblank]
    rfl
  · obtain ⟨told, htold, rfl⟩ := (Operation.writes_iff_of_response_eq_of hread).mp hw
    rw [hparse (by rw [hread]; rfl), Option.bind_some, htold]
    rfl

theorem readObject_of_told (hread : r.read.response = some (.of read refresh)) {k : Connection}
    {kept : Field Unit} {session session' : Session} {url : String} {payload : Http.Payload}
    {told : R} (hurl : r.read.url s k.client.baseUrl = .ok url)
    (hpayload : r.read.payload s = .ok payload)
    (hsend : k.send r.read.method url [] payload session = .ok reply session')
    (htold : (Json.parse? reply).bind read = some told) :
    r.readObject (some k) ⟨.known s, kept⟩ session =
      .ok ⟨.known (refresh told s), kept⟩ session' := by
  obtain ⟨j, hparse, hj⟩ := Option.bind_eq_some_iff.mp htold
  have hw : r.read.Writes j s (refresh told s) :=
    (Operation.writes_iff_of_response_eq_of hread).mpr ⟨told, hj, rfl⟩
  have habsorb : r.read.absorb url reply s = .ok (refresh told s) :=
    Operation.absorb_of_writes (by rw [hread]; rfl) hparse hw
  exact readObject_eq_ok_known_iff.mpr
    ⟨rfl, k, rfl, url, payload, reply, hurl, hpayload, hsend, habsorb⟩

theorem Reads.eq_foldl (hread : r.read.response = some (.of read refresh))
    (h : r.Reads s replies s') :
    s' = (tellings read replies).foldl (fun s told => refresh told s) s := by
  induction h with
  | nil s => rfl
  | @cons s s₁ s' reply replies k kept kept' session session' status run last rest ih =>
    rw [ih, refresh_of_readObject hread run last, tellings_cons]
    cases (Json.parse? reply).bind read with
    | none => rfl
    | some told => rfl

/-- What each reply that tells something brings about holds once something was told. -/
theorem Reads.holds (hread : r.read.response = some (.of read refresh)) {p : S → Prop}
    (h : r.Reads s replies s') (hne : tellings read replies ≠ [])
    (hrefresh : ∀ told ∈ tellings read replies, ∀ s, p (refresh told s)) : p s' := by
  rcases List.eq_nil_or_concat (tellings read replies) with hnil | ⟨tolds, told, htolds⟩
  · exact absurd hnil hne
  · rw [h.eq_foldl hread, htolds, List.concat_eq_append, List.foldl_append]
    exact hrefresh told (by simp [htolds]) _

end Resource
end ControlPlane
