import ControlPlane.Integration.Logging.Resource
import ControlPlane.Proofs.Attribute
import ControlPlane.Proofs.Codec.Kinds
import ControlPlane.Proofs.Json.Edit
import ControlPlane.Proofs.Json.Text
import ControlPlane.Proofs.Lifecycle

/-!
Destinations of logs that are read back as they were sent, by a control plane that tells their
secrets and by one that does not.
-/
namespace ControlPlane.Logging
open Json (NumberlessMembers)

/-- What is told of an integration when its secrets are kept back. -/
def withoutSecrets (sent : Json) : Json :=
  (sent.mapMember "datadog" (Json.dropMember "apiKey")).mapMember "splunk"
    (Json.dropMember "accessToken")

/-- A block that is read back as it is. -/
@[mk_iff]
structure SplunkState.Steady (b : SplunkState) : Prop where
  index : b.index.NullOr (· ≠ "")
  useTls : b.useTls.NullOr fun _ => True

/-- The states that a reply leaves as they are when it tells what was sent. -/
@[mk_iff]
structure State.Steady (s : State) : Prop where
  receiveAuditLogs : s.receiveAuditLogs.isKnown
  cloudWatch : s.cloudWatch.KnownWith fun cs =>
    cs.length ≤ 1 ∧ ∀ c ∈ cs, c.stream.NullOr (· ≠ "")
  datadog : s.datadog.KnownWith fun ds => ds.length ≤ 1
  splunk : s.splunk.KnownWith fun bs => bs.length ≤ 1 ∧ ∀ b ∈ bs, b.Steady

def Splunk.withholding (b : Splunk) : Splunk := { b with accessToken := "" }

/-- The integration that is read from what is told without secrets. -/
def withholding (l : Logging) : Logging :=
  { l with datadog := l.datadog.map fun _ => ⟨""⟩, splunk := l.splunk.map Splunk.withholding }

theorem DatadogLogs.ofJson?_dropMember (d : DatadogLogs) :
    ofJson? (d.toJson.dropMember "apiKey") = some ⟨""⟩ := by
  have hfields : (Json.obj []).fields? ["apiKey"] = some [] := rfl
  simp [ofJson?, toJson, Json.dropMember, hfields, Json.fieldD?_eq_elim]

theorem Splunk.dropMember_toJson (b : Splunk) : b.toJson.dropMember "accessToken" =
    .obj ([("hostname", .str b.hostname)] ++ [("hecPort", .str b.hecPort)] ++
      Json.textMember "index" b.index ++ [("useTls", .bool b.useTls)]) := by
  have hindex := Json.filter_textMember "accessToken" "index" (by decide) b.index
  simp only [toJson, Json.dropMember, List.filter_append, hindex]
  simp

theorem Splunk.ofJson?_dropMember (b : Splunk) :
    ofJson? (b.toJson.dropMember "accessToken") = some b.withholding := by
  have hfields := @Json.fields?_obj
    ["hostname", "hecPort", "accessToken", "index", "useTls"] _ (by decide)
    ((((Json.Within.single "hostname" (.str b.hostname)).append
      (.single "hecPort" (.str b.hecPort))).append
      (.skip "accessToken" (.textMember "index" b.index))).append
      (.single "useTls" (.bool b.useTls)))
  rw [← dropMember_toJson] at hfields
  simp [ofJson?, hfields, Json.field?, Json.fieldD?_eq_elim, List.lookup_append,
    Json.lookup_cons_eq, Json.lookup_textMember, Json.text?, Json.bool?, withholding]

theorem withoutSecrets_toJson (l : Logging) : withoutSecrets l.toJson =
    .obj ([("name", .str l.name)] ++ [("receiveAuditLogs", .bool l.receiveAuditLogs)] ++
      Json.optionMember "cloudWatch" CloudWatch.toJson l.cloudWatch ++
      Json.optionMember "datadog" (fun d => d.toJson.dropMember "apiKey") l.datadog ++
      Json.optionMember "splunk" (fun b => b.toJson.dropMember "accessToken") l.splunk) := by
  simp [withoutSecrets, toJson, Json.mapMember, Json.map_optionMember]

theorem ofJson?_withoutSecrets (l : Logging) :
    ofJson? (withoutSecrets l.toJson) = some { l.withholding with id := "" } := by
  have hfields := @Json.fields?_obj
    ["id", "name", "receiveAuditLogs", "cloudWatch", "datadog", "splunk"] _ (by decide)
    (.skip "id" (((((Json.Within.single "name" (.str l.name)).append
      (.single "receiveAuditLogs" (.bool l.receiveAuditLogs))).append
      (.optionMember "cloudWatch" CloudWatch.toJson l.cloudWatch)).append
      (.optionMember "datadog" (fun d => d.toJson.dropMember "apiKey") l.datadog)).append
      (.optionMember "splunk" (fun b => b.toJson.dropMember "accessToken") l.splunk)))
  rw [← withoutSecrets_toJson] at hfields
  have hdatadog := Json.elim_option_map (fun d : DatadogLogs => d.toJson.dropMember "apiKey")
    (fun _ => Json.noConfusion) DatadogLogs.ofJson?_dropMember l.datadog
  have hsplunk := Json.elim_option_map (fun b : Splunk => b.toJson.dropMember "accessToken")
    (fun _ => Json.noConfusion) Splunk.ofJson?_dropMember l.splunk
  simp [ofJson?, hfields, Json.field?, Json.fieldD?_eq_elim, List.lookup_append,
    Json.lookup_cons_eq, Json.lookup_optionMember, Json.text?, Json.bool?, hdatadog, hsplunk,
    Json.elim_option CloudWatch.toJson CloudWatch.toJson_ne_null CloudWatch.ofJson?_toJson,
    withholding]

/-- The block that is read back in the place of one that was sent. -/
def CloudWatchState.readBack (c : CloudWatchState) : CloudWatchState :=
  { c with stream := .ofText c.stream.text }

def SplunkState.readBack (b : SplunkState) : SplunkState :=
  { b with index := .ofText b.index.text, useTls := .ofFlag (b.useTls.getD false) b.useTls }

def State.readBack (s : State) : State where
  id := s.id
  name := s.name
  receiveAuditLogs := .known (s.receiveAuditLogs.getD false)
  cloudWatch := .single (s.cloudWatch.first.map CloudWatchState.readBack)
  datadog := .single s.datadog.first
  splunk := .single (s.splunk.first.map SplunkState.readBack)

theorem CloudWatchState.readBack_eq_self_iff (c : CloudWatchState) :
    c.readBack = c ↔ c.stream.NullOr (· ≠ "") := by
  obtain ⟨region, group, stream⟩ := c
  simp only [readBack, mk.injEq, true_and, Field.ofText_text_eq_self]

theorem SplunkState.readBack_eq_self_iff (b : SplunkState) : b.readBack = b ↔ b.Steady := by
  obtain ⟨hostname, hecPort, accessToken, index, useTls⟩ := b
  simp only [readBack, mk.injEq, true_and, Field.ofText_text_eq_self, Field.ofFlag_getD_eq_self,
    steady_iff]

theorem State.readBack_eq_self_iff (s : State) : s.readBack = s ↔ s.Steady := by
  obtain ⟨id, name, receiveAuditLogs, cloudWatch, datadog, splunk⟩ := s
  have hdatadog := Field.single_map_first_eq_self (fun d => d) datadog
  simp only [Option.map_id_fun', id_eq, implies_true, and_true] at hdatadog
  simp only [readBack, mk.injEq, true_and, Field.known_getD_eq_self,
    Field.single_map_first_eq_self, hdatadog, CloudWatchState.readBack_eq_self_iff,
    SplunkState.readBack_eq_self_iff, steady_iff]

theorem keepSecret_self (secret : String) : keepSecret secret (.known secret) = .known secret :=
  ite_self _

theorem CloudWatch.toState_of_ofState {c : CloudWatchState} {a : CloudWatch}
    (h : ofState c = .ok a) : a.toState = c.readBack := by
  obtain ⟨region, hregion, h⟩ := bind_eq_ok_iff.mp h
  obtain ⟨group, hgroup, h⟩ := bind_eq_ok_iff.mp h
  cases h
  simp only [toState, CloudWatchState.readBack, Field.require_eq_ok_iff.mp hregion,
    Field.require_eq_ok_iff.mp hgroup]

theorem DatadogLogs.toState_of_ofState {d : DatadogState} {a : DatadogLogs}
    (h : ofState d = .ok a) : a.toState (some d) = d := by
  obtain ⟨apiKey, hkey, h⟩ := bind_eq_ok_iff.mp h
  cases h
  obtain ⟨_⟩ := d
  obtain rfl := Field.require_eq_ok_iff.mp hkey
  exact congrArg DatadogState.mk (keepSecret_self apiKey)

/-- The port is sent as text, and the text tells the number again. -/
theorem Splunk.toState_of_ofState {b : SplunkState} {a : Splunk} (h : ofState b = .ok a) :
    a.toState b = b.readBack ∧ a.withholding.toState b = b.readBack := by
  obtain ⟨hostname, hhostname, h⟩ := bind_eq_ok_iff.mp h
  obtain ⟨hecPort, hport, h⟩ := bind_eq_ok_iff.mp h
  obtain ⟨accessToken, htoken, h⟩ := bind_eq_ok_iff.mp h
  cases h
  obtain ⟨_, _, _, index, useTls⟩ := b
  obtain rfl := Field.require_eq_ok_iff.mp hhostname
  obtain rfl := Field.require_eq_ok_iff.mp hport
  obtain rfl := Field.require_eq_ok_iff.mp htoken
  constructor
  · simp only [toState, SplunkState.readBack, Text.Decimal.parse?_render, keepSecret_self]
  · simp only [toState, withholding, SplunkState.readBack, Text.Decimal.parse?_render, keepSecret,
      if_true]

/-- It makes no difference to a state whether the secrets that it sent are told again. -/
theorem refresh_of_ofState {s : State} {l : Logging} (h : ofState s = .ok l) :
    refresh l s = s.readBack ∧ refresh l.withholding s = s.readBack := by
  obtain ⟨cloudWatch, hcloudWatch, h⟩ := bind_eq_ok_iff.mp h
  obtain ⟨datadog, hdatadog, h⟩ := bind_eq_ok_iff.mp h
  obtain ⟨splunk, hsplunk, h⟩ := bind_eq_ok_iff.mp h
  obtain ⟨name, hname, h⟩ := bind_eq_ok_iff.mp h
  cases h
  have hname := Field.require_eq_ok_iff.mp hname
  have hcloudWatch := map_eq_of_mapM_option (h := CloudWatchState.readBack)
    (fun _ _ => CloudWatch.toState_of_ofState) hcloudWatch
  have hkey := map_eq_of_mapM_self (g := fun prior d => DatadogLogs.toState d prior)
    (h := fun d => d) (fun _ _ => DatadogLogs.toState_of_ofState) hdatadog
  have hnoKey := map_eq_of_mapM_self (g := fun prior _ => DatadogLogs.toState ⟨""⟩ prior)
    (h := fun d => d) (fun _ _ _ => rfl) hdatadog
  have htoken := map_eq_of_mapM_self (g := fun prior b => Splunk.toState b (prior.getD .empty))
    (h := SplunkState.readBack) (fun _ _ h => (Splunk.toState_of_ofState h).1) hsplunk
  have hnoToken := map_eq_of_mapM_self
    (g := fun prior b => Splunk.toState b.withholding (prior.getD .empty))
    (h := SplunkState.readBack) (fun _ _ h => (Splunk.toState_of_ofState h).2) hsplunk
  rw [Option.map_id'] at hkey hnoKey
  constructor
  · simp only [refresh, State.readBack, hname, hcloudWatch, hkey, htoken]
  · simp only [refresh, withholding, State.readBack, hname, hcloudWatch, Option.map_map,
      Function.comp_def, hnoKey, hnoToken]

/-- What is read from an object that tells what was sent, with or without its secrets. -/
theorem exists_read_of_echo {s : State} {l : Logging} (h : ofState s = .ok l) {echo : Json}
    (hecho : echo ∈ [l.toJson, withoutSecrets l.toJson]) :
    ∃ told, ofJson? echo = some told ∧ s.readBack = refresh told s := by
  obtain ⟨htold, hkept⟩ := refresh_of_ofState h
  rcases List.mem_pair.mp hecho with rfl | rfl
  · exact ⟨{ l with id := "" }, ofJson?_toJson l, htold.symm⟩
  · exact ⟨{ l.withholding with id := "" }, ofJson?_withoutSecrets l, hkept.symm⟩

theorem numberless_toJson (l : Logging) : l.toJson.Numberless := by
  have hcloudWatch (c : CloudWatch) : c.toJson.Numberless :=
    .obj (((NumberlessMembers.single "region" (.str _)).append (.single "group" (.str _))).append
      (.textMember "stream" c.stream))
  have hdatadog (d : DatadogLogs) : d.toJson.Numberless :=
    .obj (NumberlessMembers.single "apiKey" (.str _))
  have hsplunk (b : Splunk) : b.toJson.Numberless :=
    .obj (((((NumberlessMembers.single "hostname" (.str _)).append
      (.single "hecPort" (.str _))).append (.single "accessToken" (.str _))).append
      (.textMember "index" b.index)).append (.single "useTls" (.bool _)))
  exact .obj (((((NumberlessMembers.single "name" (.str _)).append
    (.single "receiveAuditLogs" (.bool _))).append
    (.optionMember "cloudWatch" hcloudWatch l.cloudWatch)).append
    (.optionMember "datadog" hdatadog l.datadog)).append
    (.optionMember "splunk" hsplunk l.splunk))

theorem numberless_of_echo {l : Logging} {echo : Json}
    (hecho : echo ∈ [l.toJson, withoutSecrets l.toJson]) : echo.Numberless := by
  rcases List.mem_pair.mp hecho with rfl | rfl
  · exact numberless_toJson l
  · have hdatadog := l.numberless_toJson.mapMember "datadog" fun _ h => h.dropMember "apiKey"
    exact hdatadog.mapMember "splunk" fun _ h => h.dropMember "accessToken"

/--
A reply that tells what is sent for an integration is always taken in, also when it leaves the
secrets out. It keeps the secrets and the port, and the steady states are the ones that it leaves
as they are.
-/
theorem read_of_echo_eq_self_iff_steady (s : State) (sent : Json) (hsent : body s = .ok sent) :
    ∀ echo ∈ [sent, withoutSecrets sent],
      (∃ told, Json.parse? (Text.utf8 (Json.obj [("integration", echo)]).compactChars) = some told ∧
        (Json.obj [("integration", echo)]).Same told) ∧
      ∀ told reply, Json.parse? reply = some told → (Json.obj [("integration", echo)]).Same told →
        ∃ s', (s' = s ↔ s.Steady) ∧
          s'.datadog.first.map (·.apiKey) = s.datadog.first.map (·.apiKey) ∧
          s'.splunk.first.map (·.accessToken) = s.splunk.first.map (·.accessToken) ∧
          s'.splunk.first.map (·.hecPort) = s.splunk.first.map (·.hecPort) ∧
          (∀ url, resource.read.absorb url reply s = .ok s') ∧
          ∀ (k : Connection) (id : String) (kept : Field Unit) (session session' : Session),
            s.id = .known id →
            k.send .get (k.client.baseUrl ++ "/v1/integrations/logging/" ++ id) [] .none session =
              .ok reply session' →
            resource.readObject (some k) ⟨.known s, kept⟩ session =
              .ok ⟨.known s', kept⟩ session' := by
  obtain ⟨l, hl, rfl⟩ := map_eq_ok_iff.mp hsent
  intro echo hecho
  have hnumberless : (Json.obj [("integration", echo)]).Numberless :=
    .obj (NumberlessMembers.single "integration" (numberless_of_echo hecho))
  refine ⟨Json.exists_parse?_compactChars hnumberless, ?_⟩
  intro told reply htold hsame
  obtain ⟨told', hread, hback⟩ := exists_read_of_echo hl hecho
  have hdecode : Json.only? "integration" ofJson? told = some told' := by
    rw [← ofJson?_unordered.only? "integration" _ _ hsame, Json.only?_obj, hread]
  have habsorb (url : String) : resource.read.absorb url reply s = .ok s.readBack := by
    have hwrite : resource.read.Writes told s s.readBack :=
      (Operation.writes_iff_of_response_eq_of rfl).mpr ⟨told', hdecode, hback⟩
    exact Operation.absorb_of_writes rfl htold hwrite
  refine ⟨s.readBack, s.readBack_eq_self_iff, ?_, ?_, ?_, habsorb, ?_⟩
  · rw [State.readBack, Field.first_single]
  · rw [State.readBack, Field.first_single, Option.map_map]
    rfl
  · rw [State.readBack, Field.first_single, Option.map_map]
    rfl
  · intro k id kept session session' hid hsend
    rw [Resource.readObject_eq_ok_known_iff]
    refine ⟨rfl, k, rfl, _, .none, reply, ?_, rfl, hsend, habsorb _⟩
    simp [resource, objectUrl, hid]

/-- Logs go to a port that no host has, with an empty token. -/
def State.unprotected : State where
  id := .known "lg-1"
  name := .known "splunk"
  receiveAuditLogs := .known false
  cloudWatch := .known []
  datadog := .known []
  splunk := .known [⟨.known "splunk.internal", .known Int64.minValue, .known "", .null,
    .known false⟩]

/-- The body that is sent for it, with the given secrets. -/
def unprotectedBody (secrets : List (String × Json)) : Json :=
  .obj [("name", .str "splunk"), ("receiveAuditLogs", .bool false),
    ("splunk", .obj ([("hostname", .str "splunk.internal"),
      ("hecPort", .str "-9223372036854775808")] ++ secrets ++ [("useTls", .bool false)]))]

/-- Tells of the integration without its token, with the port before the host. -/
def unprotectedReply : List UInt8 :=
  Text.utf8 ("\x7b\"integration\":\x7b\"name\":\"splunk\",\"receiveAuditLogs\":false," ++
    "\"splunk\":\x7b\"hecPort\":\"-9223372036854775808\",\"hostname\":\"splunk.internal\"," ++
    "\"useTls\":false\x7d\x7d\x7d").toList

set_option maxRecDepth 20000 in
theorem read_of_unprotected : ∃ session,
    body .unprotected = .ok (unprotectedBody [("accessToken", .str "")]) ∧
    withoutSecrets (unprotectedBody [("accessToken", .str "")]) = unprotectedBody [] ∧
    resource.readObject
        (some ⟨.of "http://cp" "a" "b", fun _ _ => .complete 200 unprotectedReply⟩)
        ⟨.known .unprotected, .null⟩ { token := some ⟨"t", none⟩ } =
      .ok ⟨.known .unprotected, .null⟩ session := by
  have hsent : body .unprotected = .ok (unprotectedBody [("accessToken", .str "")]) := by
    cbv
  have hecho : withoutSecrets (unprotectedBody [("accessToken", .str "")]) =
      unprotectedBody [] := by
    cbv
  have htold : Json.parse? unprotectedReply = some (.obj [("integration", .obj
      [("name", .str "splunk"), ("receiveAuditLogs", .bool false),
        ("splunk", .obj [("hecPort", .str "-9223372036854775808"),
          ("hostname", .str "splunk.internal"), ("useTls", .bool false)])])]) := by
    cbv
  have hsplunk := Json.Same.of_perm (.swap ("hecPort", .str "-9223372036854775808")
    ("hostname", .str "splunk.internal") [("useTls", .bool false)])
  have hsteady : State.unprotected.Steady := by
    refine ⟨rfl, ⟨Nat.zero_le 1, by simp⟩, Nat.zero_le 1, ⟨Nat.le_refl 1, ?_⟩⟩
    intro b hb
    obtain rfl := List.mem_singleton.mp hb
    exact ⟨trivial, trivial⟩
  obtain ⟨-, hread⟩ := read_of_echo_eq_self_iff_steady .unprotected _ hsent (unprotectedBody [])
    (by rw [hecho]; exact .tail _ (.head _))
  obtain ⟨s', hs', -, -, -, -, hread⟩ := hread _ unprotectedReply htold
    (.single "integration" (.obj (.refl _) rfl (.cons (.refl _) (.cons (.refl _)
      (.cons hsplunk .nil)))))
  rw [hs'.mpr hsteady] at hread
  exact ⟨_, hsent, hecho, hread _ "lg-1" .null _ _ rfl rfl⟩

end ControlPlane.Logging
