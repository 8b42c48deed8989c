import ControlPlane.Proofs.Bodies
import ControlPlane.Proofs.Creation

/-!
Alternatives of which one is to be given. What is sent of a valid configuration holds one of them,
and a configuration of which one is sent is not told off for another number.
-/
namespace ControlPlane
open Exchange (toValue)

theorem isSome_of_mapM {ε α β : Type} {f : α → Except ε β} {a : Option α} {b : Option β}
    (h : a.mapM f = .ok b) : b.isSome = a.isSome := by
  rcases mapM_option_eq_ok_iff.mp h with ⟨rfl, rfl⟩ | ⟨x, y, rfl, rfl, -⟩ <;> rfl

theorem Field.isSome_first_of_toValue_eq {α : Type} [Exchange α] {x y : Field (List α)}
    (h : toValue x = toValue y) : x.first.isSome = y.first.isSome := by
  cases x with
  | null | unknown => cases y <;> first | rfl | cases h
  | known xs =>
    cases y with
    | null | unknown => cases h
    | known ys =>
      have hmap : xs.map toValue = ys.map toValue := Value.list.inj h
      have hlength := congrArg List.length hmap
      cases xs <;> cases ys <;> first | rfl | simp at hlength

namespace Validation
variable {α : Type} {path : Path} {alternatives : List (String × Field Unit)} {names : List String}
  {j : Json}

@[simp] theorem isKnown_presence (x : Field (List α)) : (presence x).isKnown = x.first.isSome := by
  cases x with
  | null | unknown => rfl
  | known xs => cases xs <;> rfl

theorem isUnknown_presence (x : Field (List α)) : (presence x).isUnknown = x.isUnknown := by
  cases x with
  | null | unknown => rfl
  | known xs => cases xs <;> rfl

/-- What is reported of alternatives. -/
def notExclusive : String := "Exactly one configuration must be given"

/-- Whether an alternative is set is settled, and the member of its name is there if it is. -/
structure Sent (j : Json) (alternative : String × Field Unit) (name : String) : Prop where
  settled : ¬ alternative.2.isUnknown
  isKnown_eq : alternative.2.isKnown = (j.member? name).isSome

theorem Sent.of_mapM {ε β : Type} [Exchange α] {x y : Field (List α)} {called name : String}
    {f : α → Except ε β} {b : Option β} {encode : β → Json} (hx : (toValue x).Complete)
    (hy : toValue y = toValue x) (hb : y.first.mapM f = .ok b)
    (hj : j.member? name = b.map encode) : Sent j (called, presence x) name where
  settled := by
    rw [isUnknown_presence]
    rcases Field.null_or_known_of_complete hx with rfl | ⟨xs, rfl⟩ <;> simp [Field.isUnknown]
  isKnown_eq := by
    rw [isKnown_presence, hj, Option.isSome_map, isSome_of_mapM hb]
    exact (Field.isSome_first_of_toValue_eq hy).symm

theorem exactlyOneOf_eq_nil_iff (hnames : names.Nodup)
    (h : List.Forall₂ (Sent j) alternatives names) :
    exactlyOneOf path alternatives = [] ↔ j.HoldsOneOf names := by
  have hsettled : alternatives.any (·.2.isUnknown) = false ∧
      (alternatives.filter (·.2.isKnown)).length =
        (names.filter fun name => (j.member? name).isSome).length := by
    clear hnames
    induction h with
    | nil => exact ⟨rfl, rfl⟩
    | cons ha _ ih =>
      obtain ⟨hany, hlength⟩ := ih
      rw [List.any_cons, List.filter_cons, List.filter_cons, ha.isKnown_eq, hany]
      refine ⟨by simpa using ha.settled, ?_⟩
      split_ifs
      · rw [List.length_cons, List.length_cons, hlength]
      · exact hlength
  rw [Json.holdsOneOf_iff hnames, ← hsettled.2, exactlyOneOf, hsettled.1]
  simp

/-- Alternatives are reported under their own summary, and ports under another. -/
theorem exactlyOneOf_quiet_iff :
    (∀ d ∈ exactlyOneOf path alternatives, d.summary ≠ notExclusive) ↔
      exactlyOneOf path alternatives = [] := by
  unfold exactlyOneOf
  split_ifs <;> simp [notExclusive]

theorem port_quiet {x : Field Int64} : ∀ d ∈ port path x, d.summary ≠ notExclusive := by
  intro d hd hsummary
  have hhead : d.summary.toList.head? = some 'I' := by
    unfold port at hd
    split at hd
    · split_ifs at hd
      · cases hd
      · obtain rfl := List.mem_singleton.mp hd
        change ("Invalid port " ++ _ : String).toList.head? = some 'I'
        rw [String.toList_append]
        rfl
    · cases hd
  rw [hsummary] at hhead
  exact absurd hhead (by decide)

end Validation

namespace Resource
variable {S : Type} [Exchange S]

/-- What is proposed for a configuration differs from it in the attributes only that the control
plane can tell. -/
def Proposes (r : Resource S) (config proposed : S) : Prop :=
  ∀ name, (∀ a ∈ r.schema.block.attributes.lookup name,
      a.constraint ≠ .computed ∧ a.constraint ≠ .optionalComputed) →
    (toValue proposed).member? name = (toValue config).member? name

theorem Proposes.refl (r : Resource S) (c : S) : r.Proposes c c := fun _ _ => rfl

/-- Blocks are never told by the control plane. -/
theorem Proposes.block_eq {α : Type} [Exchange α] {r : Resource S} {c s : S} {x y : α}
    (h : r.Proposes c s) (name : String) (hname : r.schema.block.attributes.lookup name = none)
    (hx : (toValue c).member? name = some (toValue x))
    (hy : (toValue s).member? name = some (toValue y)) : toValue y = toValue x := by
  have hgiven := h name fun a ha => absurd (hname.symm.trans ha) nofun
  rw [hx, hy] at hgiven
  exact Option.some.inj hgiven

/-- What changes computed attributes only keeps to what is proposed. -/
theorem Proposes.of_opening {r : Resource S} {c s : S} {f : S → S} (names : List String)
    (hnames : ∀ name ∈ names, ∃ a ∈ r.schema.block.attributes.lookup name,
      a.constraint = .computed ∨ a.constraint = .optionalComputed)
    (hf : ∃ ms ns, toValue (f s) = .object ms ∧ toValue s = .object ns ∧
      Value.opening names ms = Value.opening names ns) (h : r.Proposes c s) :
    r.Proposes c (f s) := by
  intro name hgiven
  have hname : name ∉ names := by
    intro hmem
    obtain ⟨a, ha, hcomputed⟩ := hnames name hmem
    exact hcomputed.elim (hgiven a ha).1 (hgiven a ha).2
  obtain ⟨ms, ns, hms, hns, hopening⟩ := hf
  rw [← h name hgiven, hms, hns]
  change ms.lookup name = ns.lookup name
  rw [← Value.lookup_opening hname ms, hopening, Value.lookup_opening hname]

variable [DecidableEq S]

/-- What is planned for a configuration, of a new object or of one that there is. -/
inductive Plans (r : Resource S) (config : S) : Managed S → Prop
  | create : Plans r config (r.planCreate (.known config))
  | update (prior : Field S) {proposed : S} (kept : Field Unit) (h : r.Proposes config proposed) :
    Plans r config (r.planUpdate prior (.known proposed) kept).1

/-- What is sent of a valid configuration is of the kind, and no configuration is told off for its
alternatives if what is sent of it is of the kind. -/
structure Exclusive (r : Resource S) (P : Json → Prop) : Prop where
  create {c : S} {planned : Managed S} (hc : (toValue c).Complete)
    (hvalid : r.validateConfig (.known c) = []) (hplan : r.Plans c planned) (k : Connection)
    (session : Session) :
    k.SendsOnly P session (Session.after (r.createObject (some k) planned session))
  update {c : S} {planned : Managed S} (hc : (toValue c).Complete)
    (hvalid : r.validateConfig (.known c) = []) (hplan : r.Plans c planned) (k : Connection)
    (session : Session) :
    k.SendsOnly P session (Session.after (r.updateObject (some k) planned session))
  valid {c s : S} {kept : Field Unit} {j : Json} (hc : (toValue c).Complete)
    (hplan : r.Plans c ⟨.known s, kept⟩) {op : Operation S} (hop : op ∈ r.create :: r.update.toList)
    (hj : op.payload s = .ok (.json j)) (hP : P j) :
    ∀ d ∈ r.validateConfig (.known c), d.summary ≠ Validation.notExclusive

variable {r : Resource S} {P : Json → Prop} {c : S}

theorem Plans.exists_proposed (hdefaults : ∀ s, r.Proposes c s → r.Proposes c (r.applyDefaults s))
    (hmarked : ∀ s, r.Proposes c s → r.Proposes c (r.markComputed s)) {planned : Managed S}
    (h : r.Plans c planned) : ∃ s kept, planned = ⟨.known s, kept⟩ ∧ r.Proposes c s := by
  cases h with
  | create => exact ⟨_, _, rfl, hmarked _ (hdefaults _ (.refl r c))⟩
  | update prior kept h =>
    cases prior with
    | null | unknown => exact ⟨_, _, rfl, h⟩
    | known prior => exact ⟨_, _, rfl, hdefaults _ h⟩

/-- The number of alternatives is judged by what is sent. -/
theorem Exclusive.of_body {encode : S → Except Failure Json} (hcreate : r.create.body = some encode)
    (hupdate : ∀ op ∈ r.update, op.body = some encode)
    (hdefaults : ∀ c s, r.Proposes c s → r.Proposes c (r.applyDefaults s))
    (hmarked : ∀ c s, r.Proposes c s → r.Proposes c (r.markComputed s))
    (hjudged : ∀ c s j, (toValue c).Complete → r.Proposes c s → encode s = .ok j →
      ((∀ d ∈ r.validateConfig (.known c), d.summary ≠ Validation.notExclusive) ↔ P j)) :
    r.Exclusive P where
  create hc hvalid hplan k session := by
    obtain ⟨s, kept, rfl, hs⟩ := hplan.exists_proposed (hdefaults _) (hmarked _)
    refine sendsOnly_createObject hcreate (fun j hj => (hjudged _ s j hc hs hj).mp ?_) kept
    simp [hvalid]
  update hc hvalid hplan k session := by
    obtain ⟨s, kept, rfl, hs⟩ := hplan.exists_proposed (hdefaults _) (hmarked _)
    cases hop : r.update with
    | none =>
      have hafter : Session.after (r.updateObject (some k) ⟨.known s, kept⟩ session) = session := by
        unfold updateObject
        rw [hop]
        rfl
      rw [hafter]
      exact .refl k P session
    | some op =>
      refine sendsOnly_updateObject hop (hupdate op hop)
        (fun j hj => (hjudged _ s j hc hs hj).mp ?_) kept
      simp [hvalid]
  valid := by
    intro c s kept j hc hplan op hop hj hP
    obtain ⟨s', kept', hplanned, hs⟩ := hplan.exists_proposed (hdefaults c) (hmarked c)
    obtain ⟨rfl, rfl⟩ : s = s' ∧ kept = kept' := by simpa using hplanned
    have hbody : op.body = some encode := by
      rcases List.mem_cons.mp hop with rfl | hop
      · exact hcreate
      · exact hupdate op (Option.mem_toList.mp hop)
    simp only [Operation.payload, hbody] at hj
    obtain ⟨j', hj', hpayload⟩ := map_eq_ok_iff.mp hj
    cases hpayload
    exact (hjudged _ s _ hc hs hj').mpr hP

end Resource

namespace Logging

/-- The members of a body that stand for a destination. -/
def destinations : List String := ["cloudWatch", "datadog", "splunk"]

theorem member?_toJson (l : Logging) :
    l.toJson.member? "cloudWatch" = l.cloudWatch.map CloudWatch.toJson ∧
    l.toJson.member? "datadog" = l.datadog.map DatadogLogs.toJson ∧
    l.toJson.member? "splunk" = l.splunk.map Splunk.toJson := by
  simp [toJson, Json.member?, List.lookup_append, Json.lookup_cons_eq, Json.lookup_optionMember]

theorem proposes_applyDefaults (c s : State) (h : resource.Proposes c s) :
    resource.Proposes c (applyDefaults s) :=
  h.of_opening ["receive_audit_logs"] (List.forall_mem_singleton.mpr ⟨_, rfl, .inr rfl⟩)
    ⟨_, _, rfl, rfl, rfl⟩

theorem proposes_markComputed (c s : State) (h : resource.Proposes c s) :
    resource.Proposes c (resource.markComputed s) :=
  h.of_opening ["id"] (List.forall_mem_singleton.mpr ⟨_, rfl, .inl rfl⟩) ⟨_, _, rfl, rfl, rfl⟩

theorem exactlyOneOf_eq_nil_iff {c s : State} {j : Json} (hc : (toValue c).Complete)
    (hs : resource.Proposes c s) (hj : body s = .ok j) :
    Validation.exactlyOneOf .root [("cloud_watch", Validation.presence c.cloudWatch),
      ("datadog", Validation.presence c.datadog), ("splunk", Validation.presence c.splunk)] = [] ↔
      j.HoldsOneOf destinations := by
  obtain ⟨l, hl, rfl⟩ := map_eq_ok_iff.mp hj
  obtain ⟨cloudWatch, hcloud, hl⟩ := bind_eq_ok_iff.mp hl
  obtain ⟨datadog, hdatadog, hl⟩ := bind_eq_ok_iff.mp hl
  obtain ⟨splunk, hsplunk, hl⟩ := bind_eq_ok_iff.mp hl
  obtain ⟨name, -, hl⟩ := bind_eq_ok_iff.mp hl
  obtain rfl := Except.ok.inj hl
  have hmembers := member?_toJson
    ⟨"", name, s.receiveAuditLogs.getD false, cloudWatch, datadog, splunk⟩
  have hblocks : (toValue c.cloudWatch).Complete ∧ (toValue c.datadog).Complete ∧
      (toValue c.splunk).Complete := by
    have hall := Value.complete_object_iff.mp hc
    simp only [List.forall_mem_cons] at hall
    exact ⟨hall.2.2.2.1, hall.2.2.2.2.1, hall.2.2.2.2.2.1⟩
  refine Validation.exactlyOneOf_eq_nil_iff (by decide) (.cons ?_ (.cons ?_ (.cons ?_ .nil)))
  · exact .of_mapM hblocks.1 (hs.block_eq "cloud_watch" rfl rfl rfl) hcloud hmembers.1
  · exact .of_mapM hblocks.2.1 (hs.block_eq "datadog" rfl rfl rfl) hdatadog hmembers.2.1
  · exact .of_mapM hblocks.2.2 (hs.block_eq "splunk" rfl rfl rfl) hsplunk hmembers.2.2

theorem exclusive : resource.Exclusive (Json.HoldsOneOf destinations) := by
  refine .of_body rfl (by simp [resource]) proposes_applyDefaults proposes_markComputed ?_
  intro c s j hc hs hj
  rw [← exactlyOneOf_eq_nil_iff hc hs hj, ← Validation.exactlyOneOf_quiet_iff]
  simp only [Resource.validateConfig, resource, validate, List.forall_mem_append]
  refine and_iff_left ?_
  simp only [List.mem_flatMap]
  rintro d ⟨⟨b, i⟩, -, hd⟩
  exact Validation.port_quiet d hd

end Logging

namespace UserAccount

/-- The members of a scheme that stand for a place of the credentials. -/
def places : List String :=
  ["environmentVariable", "kubernetesSecret", "awsSecretsManager", "hashicorpVault"]

theorem AuthScheme.member?_toJson (a : AuthScheme) :
    a.toJson.member? "environmentVariable" = a.environmentVariable.map EnvironmentVariable.toJson ∧
    a.toJson.member? "kubernetesSecret" = a.kubernetesSecret.map KubernetesSecret.toJson ∧
    a.toJson.member? "awsSecretsManager" = a.awsSecret.map AwsSecret.toJson ∧
    a.toJson.member? "hashicorpVault" = a.vault.map Vault.toJson := by
  simp [toJson, Json.member?, List.lookup_append, Json.lookup_optionMember]

theorem member?_toJson (u : UserAccount) :
    u.toJson.member? "authScheme" = some u.authScheme.toJson := by
  simp [toJson, Json.member?, List.lookup_append, Json.lookup_cons_eq, Json.lookup_textMember]

theorem proposes_markComputed (c s : State) (h : resource.Proposes c s) :
    resource.Proposes c (resource.markComputed s) :=
  h.of_opening ["id", "user_account_id"]
    (List.forall_mem_cons.mpr
      ⟨⟨_, rfl, .inl rfl⟩, List.forall_mem_singleton.mpr ⟨_, rfl, .inl rfl⟩⟩)
    ⟨_, _, rfl, rfl, rfl⟩

theorem exactlyOneOf_eq_nil_iff {a b : AuthSchemeState} {scheme : AuthScheme}
    (ha : (toValue a).Complete) (hsame : toValue b = toValue a)
    (hscheme : AuthScheme.ofState b = .ok scheme) :
    Validation.exactlyOneOf (.of "auth_scheme")
      [("environment_variable", Validation.presence a.environmentVariable),
        ("kubernetes_secret", Validation.presence a.kubernetesSecret),
        ("aws_secrets_manager", Validation.presence a.awsSecret),
        ("hashicorp_vault", Validation.presence a.vault)] = [] ↔
      scheme.toJson.HoldsOneOf places := by
  obtain ⟨environment, henvironment, hscheme⟩ := bind_eq_ok_iff.mp hscheme
  obtain ⟨kubernetes, hkubernetes, hscheme⟩ := bind_eq_ok_iff.mp hscheme
  obtain ⟨aws, haws, hscheme⟩ := bind_eq_ok_iff.mp hscheme
  obtain ⟨vault, hvault, hscheme⟩ := bind_eq_ok_iff.mp hscheme
  obtain rfl := Except.ok.inj hscheme
  have hmembers := AuthScheme.member?_toJson ⟨environment, kubernetes, aws, vault⟩
  have hblocks := Value.complete_object_iff.mp ha
  simp only [List.forall_mem_cons] at hblocks
  have hparts : toValue b.environmentVariable = toValue a.environmentVariable ∧
      toValue b.kubernetesSecret = toValue a.kubernetesSecret ∧
      toValue b.awsSecret = toValue a.awsSecret ∧ toValue b.vault = toValue a.vault := by
    have hobject := Value.object.inj hsame
    simp only [List.cons.injEq, Prod.mk.injEq, true_and, and_true] at hobject
    exact hobject
  refine Validation.exactlyOneOf_eq_nil_iff (by decide)
    (.cons ?_ (.cons ?_ (.cons ?_ (.cons ?_ .nil))))
  · exact .of_mapM hblocks.1 hparts.1 henvironment hmembers.1
  · exact .of_mapM hblocks.2.1 hparts.2.1 hkubernetes hmembers.2.1
  · exact .of_mapM hblocks.2.2.1 hparts.2.2.1 haws hmembers.2.2.1
  · exact .of_mapM hblocks.2.2.2.1 hparts.2.2.2 hvault hmembers.2.2.2

theorem exclusive : resource.Exclusive fun j =>
    ∃ scheme, j.member? "authScheme" = some scheme ∧ scheme.HoldsOneOf places := by
  refine .of_body rfl (by simp [resource]) (fun _ _ h => h) proposes_markComputed ?_
  intro c s j hc hs hj
  obtain ⟨u, hu, rfl⟩ := map_eq_ok_iff.mp hj
  obtain ⟨b, hb, hu⟩ := bind_eq_ok_iff.mp hu
  obtain ⟨scheme, hscheme, hu⟩ := bind_eq_ok_iff.mp hu
  obtain ⟨name, -, hu⟩ := bind_eq_ok_iff.mp hu
  obtain rfl := Except.ok.inj hu
  simp only [member?_toJson, Option.some.injEq, exists_eq_left']
  have hsame := hs.block_eq "auth_scheme" rfl rfl rfl
  rw [Field.require_eq_ok_iff.mp hb] at hsame
  obtain ⟨a, ha⟩ : ∃ a, c.authScheme = .known a := by
    cases h : c.authScheme with
    | null | unknown =>
      rw [h] at hsame
      cases hsame
    | known a => exact ⟨a, rfl⟩
  rw [ha] at hsame
  have hcomplete : (toValue c.authScheme).Complete := by
    have hall := Value.complete_object_iff.mp hc
    simp only [List.forall_mem_cons] at hall
    exact hall.2.2.2.2.2.1
  rw [ha] at hcomplete
  rw [← exactlyOneOf_eq_nil_iff hcomplete hsame hscheme, ← Validation.exactlyOneOf_quiet_iff]
  simp only [Resource.validateConfig, resource, validate, ha]

end UserAccount

/-- Exactly one destination of logs is sent, and exactly one place of credentials. -/
theorem one_alternative_sent :
    Logging.resource.Exclusive (Json.HoldsOneOf ["cloudWatch", "datadog", "splunk"]) ∧
    UserAccount.resource.Exclusive fun j =>
      ∃ scheme, j.member? "authScheme" = some scheme ∧ scheme.HoldsOneOf
        ["environmentVariable", "kubernetesSecret", "awsSecretsManager", "hashicorpVault"] :=
  ⟨Logging.exclusive, UserAccount.exclusive⟩

/-- Logs that go to CloudWatch. There is no block for Datadog, and none is given for Splunk. -/
def Logging.State.watched : State :=
  ⟨.null, .known "logs", .null, .known [⟨.known "us-east-1", .known "g", .null⟩], .known [], .null⟩

/-- An account whose credentials are in Vault. The other places are null or without a block. -/
def UserAccount.State.vaulted : State :=
  ⟨.null, .known "r1", .null, .known "app", .null,
    .known ⟨.known [], .null, .known [], .known [⟨.known "secret/app", .null⟩]⟩⟩

/-- The requests for a new object to a control plane that has given a token and is gone since. -/
def Resource.requestsFor {S : Type} [Exchange S] [DecidableEq S] (r : Resource S) (config : S) :
    List Http.Request :=
  (Session.after (r.createObject (some ⟨.of "http://cp" "a" "b", fun _ _ => .dropped⟩)
    (r.planCreate (.known config)) { token := some ⟨"t", none⟩ })).log

set_option maxRecDepth 20000 in
/-- Both configurations are valid, and the one request for each has the one alternative. -/
theorem one_alternative_sent_single :
    (∃ j, Logging.resource.requestsFor .watched =
        [⟨.post, "/v1/integrations/logging", some "Bearer t", .json j⟩] ∧
      j.HoldsOneOf ["cloudWatch", "datadog", "splunk"]) ∧
    ∃ j, UserAccount.resource.requestsFor .vaulted =
        [⟨.post, "/v1/repos/r1/userAccounts", some "Bearer t", .json j⟩] ∧
      ∃ scheme, j.member? "authScheme" = some scheme ∧ scheme.HoldsOneOf UserAccount.places := by
  obtain ⟨hlogging, haccount⟩ := one_alternative_sent
  constructor
  · have hcomplete : (toValue Logging.State.watched).Complete := by
      simp [Logging.State.watched, toValue, Value.Complete.text, Value.Complete.null]
    have hvalid : Logging.resource.validateConfig (.known .watched) = [] := by
      cbv
    have hrun : ∃ j, Logging.resource.requestsFor .watched =
        [⟨.post, "/v1/integrations/logging", some "Bearer t", .json j⟩] :=
      ⟨_, rfl⟩
    obtain ⟨j, hrun⟩ := hrun
    exact ⟨j, hrun, (hlogging.create hcomplete hvalid .create _ _).of_log hrun rfl⟩
  · have hcomplete : (toValue UserAccount.State.vaulted).Complete := by
      simp [UserAccount.State.vaulted, toValue, Value.Complete.text, Value.Complete.null]
    have hvalid : UserAccount.resource.validateConfig (.known .vaulted) = [] := by
      cbv
    have hrun : ∃ j, UserAccount.resource.requestsFor .vaulted =
        [⟨.post, "/v1/repos/r1/userAccounts", some "Bearer t", .json j⟩] :=
      ⟨_, rfl⟩
    obtain ⟨j, hrun⟩ := hrun
    exact ⟨j, hrun, (haccount.create hcomplete hvalid .create _ _).of_log hrun rfl⟩

end ControlPlane
