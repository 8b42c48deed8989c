import ControlPlane.Integration.Datadog
import ControlPlane.Integration.Logging.Resource
import ControlPlane.Integration.Webhook
import ControlPlane.Proofs.Attribute
import ControlPlane.Proofs.Reads
import ControlPlane.ServiceAccount
import ControlPlane.Sidecar.Credentials

/-!
Secrets that outlast reads. However often an object is read, a secret of it is the one that was told
last, or the one that it had at first if none was told.
-/
namespace ControlPlane

namespace Field
variable {α : Type}

/-- The value that was told last, or the first one if none was told. -/
def lastOf (told : List α) (first : Field α) : Field α := told.getLast?.elim first .known

@[simp] theorem lastOf_nil (first : Field α) : lastOf [] first = first := rfl

@[simp] theorem lastOf_cons (a : α) (told : List α) (first : Field α) :
    lastOf (a :: told) first = lastOf told (.known a) := by
  unfold lastOf
  rw [List.getLast?_cons]
  cases told.getLast? <;> rfl

end Field

namespace Resource
variable {S R α : Type} {r : Resource S} {read : Json → Option R} {refresh : R → S → S}
  {get : S → Field α} {told? : R → Option α} {relevant : R → Prop}

/-- Through any reads whose replies are all relevant, an attribute is what was told of it last, or
what it was at first. -/
def KeepsLast (r : Resource S) (read : Json → Option R) (relevant : R → Prop)
    (get : S → Field α) (told? : R → Option α) : Prop :=
  ∀ s replies s', r.Reads s replies s' → (∀ told ∈ tellings read replies, relevant told) →
    get s' = .lastOf ((tellings read replies).filterMap told?) (get s)

/-- Reads whose replies are all relevant leave one block, which is one that was told. -/
def LeavesOne {B : Type} (r : Resource S) (read : Json → Option R) (relevant : R → Prop)
    (blocks : S → Field (List B)) : Prop :=
  ∀ s replies s', r.Reads s replies s' → tellings read replies ≠ [] →
    (∀ told ∈ tellings read replies, relevant told) → ∃ b, blocks s' = .known [b]

theorem LeavesOne.of_refresh {B : Type} {blocks : S → Field (List B)}
    (hread : r.read.response = some (.of read refresh))
    (hrefresh : ∀ told s, relevant told → ∃ b, blocks (refresh told s) = .known [b]) :
    r.LeavesOne read relevant blocks :=
  fun _ _ _ h hne hrelevant =>
    h.holds (p := fun s => ∃ b, blocks s = .known [b]) hread hne fun told htold s =>
      hrefresh told s (hrelevant told htold)

theorem get_foldl_refresh
    (hrefresh : ∀ told s, relevant told →
      get (refresh told s) = (told? told).elim (get s) .known)
    (tolds : List R) (hrelevant : ∀ told ∈ tolds, relevant told) (s : S) :
    get (tolds.foldl (fun s told => refresh told s) s) =
      .lastOf (tolds.filterMap told?) (get s) := by
  induction tolds generalizing s with
  | nil => rfl
  | cons told tolds ih =>
    rw [List.forall_mem_cons] at hrelevant
    rw [List.foldl_cons, ih hrelevant.2, hrefresh told s hrelevant.1, List.filterMap_cons]
    cases told? told with
    | none => rfl
    | some a => exact (Field.lastOf_cons a _ _).symm

theorem Reads.get_eq {s s' : S} {replies : List (List UInt8)}
    (hread : r.read.response = some (.of read refresh))
    (hrefresh : ∀ told s, get (refresh told s) = get s) (h : r.Reads s replies s') :
    get s' = get s := by
  have hnone (told : R) (s : S) (_ : True) :
      get (refresh told s) = (none : Option α).elim (get s) .known :=
    hrefresh told s
  have hkept := get_foldl_refresh hnone (tellings read replies) (fun _ _ => trivial) s
  rw [h.eq_foldl hread, hkept, List.filterMap_none]
  rfl

theorem KeepsLast.of_refresh (hread : r.read.response = some (.of read refresh))
    (hrefresh : ∀ told s, relevant told →
      get (refresh told s) = (told? told).elim (get s) .known) :
    r.KeepsLast read relevant get told? := by
  intro s replies s' h hrelevant
  rw [h.eq_foldl hread]
  exact get_foldl_refresh hrefresh _ hrelevant s

end Resource

namespace Datadog

theorem apiKey_refresh (d : Datadog) (s : State) :
    (refresh d s).apiKey = (d.apiKey.filter (· ≠ "")).elim s.apiKey .known := by
  simp only [refresh]
  cases d.apiKey.filter (· ≠ "") <;> rfl

end Datadog

namespace Webhook

theorem url_refresh (w : Webhook) (s : State) :
    (refresh w s).url = (w.url.filter (· ≠ "")).elim s.url .known := by
  simp only [refresh]
  cases w.url.filter (· ≠ "") <;> rfl

end Webhook

namespace Logging

/-- The key in the first block, if there is a block. -/
def State.apiKey (s : State) : Field String := (s.datadog.first.map (·.apiKey)).getD .null

def State.accessToken (s : State) : Field String := (s.splunk.first.map (·.accessToken)).getD .null

def State.hecPort (s : State) : Field Int64 := (s.splunk.first.map (·.hecPort)).getD .null

theorem keepSecret_eq (told : String) (prior : Field String) :
    keepSecret told prior = ((some told).filter (· ≠ "")).elim prior .known := by
  unfold keepSecret
  split_ifs with h
  · rw [h]
    rfl
  · rw [Option.filter_some_pos (by simpa using h)]
    rfl

/-- A block that is told is made anew, in view of the first block that was there before. -/
theorem apiKey_refresh (l : Logging) (s : State) (h : l.datadog.isSome) :
    (refresh l s).apiKey =
      ((l.datadog.map (·.apiKey)).filter (· ≠ "")).elim s.apiKey .known := by
  obtain ⟨d, hd⟩ := Option.isSome_iff_exists.mp h
  simp only [State.apiKey, refresh, hd, Option.map_some, Field.first_single, Option.getD_some,
    DatadogLogs.toState, keepSecret_eq]

theorem exists_datadog_refresh (l : Logging) (s : State) (h : l.datadog.isSome) :
    ∃ d, (refresh l s).datadog = .known [d] := by
  obtain ⟨d, hd⟩ := Option.isSome_iff_exists.mp h
  exact ⟨d.toState s.datadog.first, by rw [refresh, hd]; rfl⟩

theorem exists_splunk_refresh (l : Logging) (s : State) (h : l.splunk.isSome) :
    ∃ b, (refresh l s).splunk = .known [b] := by
  obtain ⟨b, hb⟩ := Option.isSome_iff_exists.mp h
  exact ⟨b.toState (s.splunk.first.getD .empty), by rw [refresh, hb]; rfl⟩

theorem accessToken_refresh (l : Logging) (s : State) (h : l.splunk.isSome) :
    (refresh l s).accessToken =
      ((l.splunk.map (·.accessToken)).filter (· ≠ "")).elim s.accessToken .known := by
  obtain ⟨b, hb⟩ := Option.isSome_iff_exists.mp h
  have hprior : s.accessToken = (s.splunk.first.getD .empty).accessToken := by
    unfold State.accessToken
    cases s.splunk.first <;> rfl
  rw [hprior]
  simp only [State.accessToken, refresh, hb, Option.map_some, Field.first_single,
    Option.getD_some, Splunk.toState, keepSecret_eq]

theorem hecPort_refresh (l : Logging) (s : State) (h : l.splunk.isSome) :
    (refresh l s).hecPort =
      (l.splunk.bind fun b => Text.Decimal.parse? b.hecPort).elim s.hecPort .known := by
  obtain ⟨b, hb⟩ := Option.isSome_iff_exists.mp h
  have hprior : s.hecPort = (s.splunk.first.getD .empty).hecPort := by
    unfold State.hecPort
    cases s.splunk.first <;> rfl
  rw [hprior]
  simp only [State.hecPort, refresh, hb, Option.map_some, Option.bind_some,
    Field.first_single, Option.getD_some, Splunk.toState]
  cases Text.Decimal.parse? b.hecPort <;> rfl

end Logging

theorem ServiceAccount.clientSecret_of_reads {s s' : State} {replies : List (List UInt8)}
    (h : resource.Reads s replies s') : s'.clientSecret = s.clientSecret :=
  h.get_eq (show resource.read.response = some (.of ofJson? refresh) from rfl) fun _ _ => rfl

theorem SidecarCredentials.clientSecret_of_reads {s s' : State} {replies : List (List UInt8)}
    (h : resource.Reads s replies s') : s'.clientSecret = s.clientSecret :=
  h.get_eq (show resource.read.response = some (.of Info.ofJson? refresh) from rfl) fun _ _ => rfl

/--
However often an object is read, its secrets stay. A secret that a reply may tell is the one that
was told last and was not empty, and a port is the last one that is a number. The secrets of
accounts are not written by any read.
-/
theorem secrets_after_reads :
    Datadog.resource.KeepsLast Datadog.ofJson? (fun _ => True) (·.apiKey)
      (fun d => d.apiKey.filter (· ≠ "")) ∧
    (∀ service, (Webhook.resource service).KeepsLast Webhook.ofJson? (fun _ => True) (·.url)
      fun w => w.url.filter (· ≠ "")) ∧
    (Logging.resource.LeavesOne (Json.only? "integration" Logging.ofJson?) (·.datadog.isSome)
        (·.datadog) ∧
      Logging.resource.KeepsLast (Json.only? "integration" Logging.ofJson?) (·.datadog.isSome)
        (·.apiKey) fun l => (l.datadog.map (·.apiKey)).filter (· ≠ "")) ∧
    (Logging.resource.LeavesOne (Json.only? "integration" Logging.ofJson?) (·.splunk.isSome)
        (·.splunk) ∧
      Logging.resource.KeepsLast (Json.only? "integration" Logging.ofJson?) (·.splunk.isSome)
        (·.accessToken) (fun l => (l.splunk.map (·.accessToken)).filter (· ≠ "")) ∧
      Logging.resource.KeepsLast (Json.only? "integration" Logging.ofJson?) (·.splunk.isSome)
        (·.hecPort) fun l => l.splunk.bind fun b => Text.Decimal.parse? b.hecPort) ∧
    (∀ s replies s', ServiceAccount.resource.Reads s replies s' →
      s'.clientSecret = s.clientSecret) ∧
    ∀ s replies s', SidecarCredentials.resource.Reads s replies s' →
      s'.clientSecret = s.clientSecret :=
  ⟨.of_refresh rfl fun d s _ => Datadog.apiKey_refresh d s,
    fun _ => .of_refresh rfl fun w s _ => Webhook.url_refresh w s,
    ⟨.of_refresh rfl Logging.exists_datadog_refresh, .of_refresh rfl Logging.apiKey_refresh⟩,
    ⟨.of_refresh rfl Logging.exists_splunk_refresh, .of_refresh rfl Logging.accessToken_refresh,
      .of_refresh rfl Logging.hecPort_refresh⟩,
    fun _ _ _ => ServiceAccount.clientSecret_of_reads,
    fun _ _ _ => SidecarCredentials.clientSecret_of_reads⟩

namespace Logging

/-- Logs are forwarded to a port with a token. -/
def State.forwarded (hecPort : Int64) (token : String) : State where
  id := .known "lg-1"
  name := .known "logs"
  receiveAuditLogs := .known false
  cloudWatch := .known []
  datadog := .known []
  splunk := .known [⟨.known "host", .known hecPort, .known token, .null, .null⟩]

/-- The reply that tells where logs are forwarded to, with the members of the block. -/
def forwardedReply (members : String) : List UInt8 :=
  Text.utf8 ("\x7b\"integration\":\x7b\"name\":\"logs\",\"splunk\":\x7b\"hostname\":\"host\"," ++
    members ++ "\x7d\x7d\x7d").toList

/-- The session in which the integration was read once. -/
def session : Session where
  log := [⟨.get, "/v1/integrations/logging/lg-1", some "Bearer t", .none⟩]
  token := some ⟨"t", none⟩

theorem send_replying (reply : List UInt8) :
    (Connection.replying reply).send .get "http://cp/v1/integrations/logging/lg-1" [] .none
      { token := some ⟨"t", none⟩ } = .ok reply session :=
  rfl

theorem reads_of_absorb {reply : List UInt8} {hecPort hecPort' : Int64} {token token' : String}
    (h : resource.read.absorb "http://cp/v1/integrations/logging/lg-1" reply
      (.forwarded hecPort token) = .ok (.forwarded hecPort' token'))
    {replies : List (List UInt8)} {s' : State}
    (rest : resource.Reads (.forwarded hecPort' token') replies s') :
    resource.Reads (.forwarded hecPort token) (reply :: replies) s' := by
  have hrun : resource.readObject (some (.replying reply))
      ⟨.known (.forwarded hecPort token), .null⟩ { token := some ⟨"t", none⟩ } =
        .ok ⟨.known (.forwarded hecPort' token'), .null⟩ session :=
    Resource.readObject_eq_ok_known_iff.mpr
      ⟨rfl, _, rfl, _, .none, reply, rfl, rfl, send_replying reply, h⟩
  exact .cons hrun rfl rest

/-- What the reply with the members tells. -/
def forwardedJson (members : List (String × Json)) : Json :=
  .obj [("integration", .obj [("name", .str "logs"),
    ("splunk", .obj (("hostname", .str "host") :: members))])]

set_option maxRecDepth 20000 in
theorem parse?_port_and_token :
    Json.parse? (forwardedReply "\"hecPort\":\"8089\",\"accessToken\":\"t2\"") =
      some (forwardedJson [("hecPort", .str "8089"), ("accessToken", .str "t2")]) := by
  cbv

set_option maxRecDepth 20000 in
theorem parse?_no_number : Json.parse? (forwardedReply "\"hecPort\":\"x\"") =
    some (forwardedJson [("hecPort", .str "x")]) := by
  cbv

theorem absorb_forwardedReply (url : String) {members : String} {told : List (String × Json)}
    {splunk : Splunk} {s s' : State}
    (hparse : Json.parse? (forwardedReply members) = some (forwardedJson told))
    (htold : Json.only? "integration" ofJson? (forwardedJson told) =
      some ⟨"", "logs", false, none, none, some splunk⟩)
    (hs' : s' = refresh ⟨"", "logs", false, none, none, some splunk⟩ s) :
    resource.read.absorb url (forwardedReply members) s = .ok s' := by
  have hw : resource.read.Writes (forwardedJson told) s s' :=
    (Operation.writes_iff_of_response_eq_of rfl).mpr ⟨_, htold, hs'⟩
  exact Operation.absorb_of_writes rfl hparse hw

/-- The token that the first reply told is still there when the last one tells no token. The port
of the last reply is not a number. -/
theorem secrets_after_reads_forwarded :
    let replies := [forwardedReply "\"hecPort\":\"8089\",\"accessToken\":\"t2\"", [],
      forwardedReply "\"hecPort\":\"x\""]
    resource.Reads (.forwarded 8088 "t1") replies (.forwarded 8089 "t2") ∧
      (∀ told ∈ tellings (Json.only? "integration" ofJson?) replies, told.splunk.isSome) ∧
      (State.forwarded 8089 "t2").accessToken = .lastOf ["t2"] (.known "t1") ∧
      (State.forwarded 8089 "t2").hecPort = .lastOf [8089] (.known 8088) := by
  intro replies
  have hfirst := absorb_forwardedReply "http://cp/v1/integrations/logging/lg-1"
    (s := .forwarded 8088 "t1") parse?_port_and_token rfl rfl
  have hlast := absorb_forwardedReply "http://cp/v1/integrations/logging/lg-1"
    (s := .forwarded 8089 "t2") parse?_no_number rfl rfl
  have hreads : resource.Reads (.forwarded 8088 "t1") replies (.forwarded 8089 "t2") :=
    reads_of_absorb hfirst <| reads_of_absorb (Operation.absorb_of_blank rfl) <|
      reads_of_absorb hlast <| .nil _
  have htellings : tellings (Json.only? "integration" ofJson?) replies =
      [⟨"", "logs", false, none, none, some ⟨"host", "8089", "t2", "", false⟩⟩,
        ⟨"", "logs", false, none, none, some ⟨"host", "x", "", "", false⟩⟩] := by
    have hblank : Json.parse? [] = none := Json.parse?_eq_none_of_blank rfl
    simp only [replies, tellings_cons, parse?_port_and_token, parse?_no_number, hblank,
      Option.bind_some]
    rfl
  have hsplunk : ∀ told ∈ tellings (Json.only? "integration" ofJson?) replies,
      told.splunk.isSome := by
    rw [htellings]
    decide
  obtain ⟨-, -, -, ⟨-, htoken, hport⟩, -, -⟩ := secrets_after_reads
  have htoken' := htoken _ _ _ hreads hsplunk
  have hport' := hport _ _ _ hreads hsplunk
  rw [htellings] at htoken' hport'
  exact ⟨hreads, hsplunk, htoken', hport'⟩

end Logging

end ControlPlane
