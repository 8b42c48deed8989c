import ControlPlane.Proofs.Bodies
import ControlPlane.Proofs.Creation

/-!
What is sent of a repository that passes its checks. The checks tell null from set, and the encoder
leaves out what is empty or zero. So a text that is set and empty passes the checks and is not sent.
-/
namespace ControlPlane
open Exchange (toValue)

namespace Validation

theorem port_eq_nil_iff {path : Path} {p : Int64} :
    port path (.known p) = [] ↔ 1 ≤ p ∧ p ≤ 65535 := by
  simp [port]

theorem oneOf_eq_nil_iff {path : Path} {s : String} {allowed : List String} :
    oneOf path (.known s) allowed = [] ↔ s ∈ allowed := by
  simp [oneOf]

end Validation

namespace Repository

/-- A dynamic node has no address, and any other has a port. -/
def Node.Checked (j : Json) : Prop :=
  (j.member? "dynamic" = some (.bool true) ∧ j.member? "host" = none ∧ j.member? "port" = none) ∨
    (j.member? "dynamic" = some (.bool false) ∧
      ∃ port : Int, 1 ≤ port ∧ port ≤ 65535 ∧ j.member? "port" = some (.int port))

/-- What the checks make sure of, in the body that is sent of a configuration. -/
structure Checked (c : State) (j : Json) : Prop where
  type : ∃ type ∈ types, j.member? "type" = some (.str type)
  nodes : ∃ nodes, j.member? "repoNodes" = some (.arr nodes) ∧ (c.nodes.isKnown → nodes ≠ []) ∧
    ∀ n ∈ nodes, Node.Checked n
  mongo : ∀ m ∈ j.member? "mongoDbSettings", j.member? "type" = some (.str "mongodb") ∧
    ∃ server ∈ mongoServerTypes, m.member? "serverType" = some (.str server)

/-- Each node that is not dynamic has a host as well, and each replica set a name. -/
structure WellFormed (c : State) (j : Json) : Prop extends Checked c j where
  host : ∀ nodes, j.member? "repoNodes" = some (.arr nodes) → ∀ n ∈ nodes,
    n.member? "dynamic" = some (.bool false) → ∃ host ≠ "", n.member? "host" = some (.str host)
  replicaSet : ∀ m ∈ j.member? "mongoDbSettings",
    m.member? "serverType" = some (.str "replicaset") →
      ∃ name ≠ "", m.member? "replicaSetName" = some (.str name)

/-- No host is set to an empty text, nor is the name of a replica set. -/
structure State.Spelled (c : State) : Prop where
  host : ∀ n ∈ c.nodes.elems, n.host ≠ .known ""
  replicaSet : ∀ m ∈ c.mongo.first,
    m.serverType = .known "replicaset" → m.replicaSetName ≠ .known ""

/-- What the checks leave of a node. -/
inductive NodeState.Accepted : NodeState → Prop
  | dynamic (name : Field String) : Accepted ⟨name, .null, .null, .known true⟩
  | static (name : Field String) (host : String) {port : Int64} {dynamic : Field Bool}
    (hport : 1 ≤ port ∧ port ≤ 65535) (hdynamic : dynamic.getD false = false) :
    Accepted ⟨name, .known host, .known port, dynamic⟩

theorem addressParts_eq_nil_iff {n : NodeState} (given : {α : Type} → Field α → Bool) :
    addressParts n given = [] ↔ ¬ given n.host ∧ ¬ given n.port := by
  simp [addressParts]

theorem NodeState.accepted_of_validateNode {n : NodeState} {path : Path}
    (hn : (toValue n).Complete) (h : validateNode path n = []) : n.Accepted := by
  have hparts := Value.complete_object_iff.mp hn
  simp only [List.forall_mem_cons] at hparts
  have hhost := Field.null_or_known_of_complete hparts.2.1
  have hport := Field.null_or_known_of_complete hparts.2.2.1
  obtain ⟨hrange, haddress⟩ := List.append_eq_nil_iff.mp h
  have hstatic (hmissing : addressParts n Field.isNull = [])
      (hdynamic : n.dynamic.getD false = false) : n.Accepted := by
    obtain ⟨hh, hp⟩ := (addressParts_eq_nil_iff Field.isNull).mp hmissing
    obtain ⟨name, host, port, dynamic⟩ := n
    rcases hhost with rfl | ⟨a, rfl⟩
    · exact absurd rfl hh
    rcases hport with rfl | ⟨p, rfl⟩
    · exact absurd rfl hp
    exact .static name a (Validation.port_eq_nil_iff.mp hrange) hdynamic
  rcases Field.null_or_known_of_complete hparts.2.2.2.1 with hnull | ⟨b, hb⟩
  · simp only [hnull, List.map_eq_nil_iff] at haddress
    exact hstatic haddress (by rw [hnull]; rfl)
  · cases b with
    | false =>
      simp only [hb, List.map_eq_nil_iff] at haddress
      exact hstatic haddress (by rw [hb]; rfl)
    | true =>
      simp only [hb, List.map_eq_nil_iff] at haddress
      obtain ⟨hh, hp⟩ := (addressParts_eq_nil_iff Field.isKnown).mp haddress
      obtain ⟨name, host, port, dynamic⟩ := n
      obtain rfl : dynamic = .known true := hb
      rcases hhost with rfl | ⟨a, rfl⟩
      · rcases hport with rfl | ⟨p, rfl⟩
        · exact .dynamic name
        · exact absurd rfl hp
      · exact absurd rfl hh

theorem Node.member?_toJson (n : Node) :
    n.toJson.member? "dynamic" = some (.bool n.dynamic) ∧
    n.toJson.member? "host" = (if n.host = "" then none else some (.str n.host)) ∧
    n.toJson.member? "port" = if n.port = 0 then none else some (.number n.port) := by
  simp [toJson, Json.member?, List.lookup_append, Json.lookup_cons_eq, Json.lookup_textMember,
    Json.lookup_memberIf]

theorem NodeState.Accepted.checked {n : NodeState} (h : n.Accepted) :
    Node.Checked (Node.ofState n).toJson := by
  obtain ⟨hdynamic, hhost, hport⟩ := (Node.ofState n).member?_toJson
  cases h with
  | dynamic name => exact .inl ⟨hdynamic, hhost, hport⟩
  | @static name host port dynamic hrange hstatic =>
    refine .inr ⟨hdynamic.trans ?_, port.toInt, ?_, ?_, hport.trans ?_⟩
    · rw [← hstatic]
      rfl
    · exact Int64.le_iff_toInt_le.mp hrange.1
    · exact Int64.le_iff_toInt_le.mp hrange.2
    · have hne : port ≠ 0 := by
        rintro rfl
        exact absurd hrange.1 (by decide)
      exact if_neg hne

/-- An empty host is the one thing that an accepted node can lack. -/
theorem NodeState.Accepted.host_iff {n : NodeState} (h : n.Accepted) :
    ((Node.ofState n).toJson.member? "dynamic" = some (.bool false) →
      ∃ host ≠ "", (Node.ofState n).toJson.member? "host" = some (.str host)) ↔
      n.host ≠ .known "" := by
  obtain ⟨hdynamic, hhost, -⟩ := (Node.ofState n).member?_toJson
  rw [hdynamic, hhost]
  cases h with
  | dynamic name => simp [Node.ofState]
  | @static name host port dynamic hrange hstatic =>
    simp only [Node.ofState, hstatic, Field.text_known, true_imp_iff]
    by_cases hempty : host = ""
    · simp [hempty]
    · simp [hempty]

theorem MongoSettings.member?_toJson (m : MongoSettings) :
    m.toJson.member? "serverType" = some (.str m.serverType) ∧
    m.toJson.member? "replicaSetName" =
      if m.replicaSetName = "" then none else some (.str m.replicaSetName) := by
  simp [toJson, Json.member?, List.lookup_append, Json.lookup_cons_eq, Json.lookup_textMember]

/-- What the checks leave of the settings of a repository of a type. -/
structure MongoState.Accepted (type : String) (m : MongoState) : Prop where
  type : type = "mongodb"
  server : ∀ server, m.serverType = .known server → server ∈ mongoServerTypes
  replicaSet : m.serverType = .known "replicaset" → ∃ name, m.replicaSetName = .known name

theorem MongoState.accepted_of_validateMongo {type : String} {m : MongoState}
    (hm : (toValue m).Complete) (h : validateMongo (.known type) m = []) : m.Accepted type := by
  obtain ⟨h, hreplicaSet⟩ := List.append_eq_nil_iff.mp h
  obtain ⟨htype, hserver⟩ := List.append_eq_nil_iff.mp h
  refine ⟨?_, ?_, ?_⟩
  · split at htype
    · next heq => exact Field.known.inj heq
    · cases htype
    · next hne => exact absurd rfl (hne type)
  · intro server hs
    rw [hs] at hserver
    exact Validation.oneOf_eq_nil_iff.mp hserver
  · intro hs
    have hparts := Value.complete_object_iff.mp hm
    simp only [List.forall_mem_cons] at hparts
    rcases Field.null_or_known_of_complete hparts.2.1 with hnull | hname
    · simp [hs, hnull, Field.isNull] at hreplicaSet
    · exact hname

section Settings
variable {type : String} {block : Option MongoState} {mongo : Option MongoSettings}
  (hmongo : block.mapM MongoSettings.ofState = .ok mongo) (h : ∀ m ∈ block, m.Accepted type)
include hmongo h

theorem MongoState.Accepted.checked :
    ∀ m ∈ mongo.map MongoSettings.toJson, type = "mongodb" ∧
      ∃ server ∈ mongoServerTypes, m.member? "serverType" = some (.str server) := by
  rcases mapM_option_eq_ok_iff.mp hmongo with ⟨-, rfl⟩ | ⟨m, settings, rfl, rfl, hsettings⟩
  · simp
  · obtain ⟨server, hserver, hsettings⟩ := bind_eq_ok_iff.mp hsettings
    obtain rfl := Except.ok.inj hsettings
    have hs := Field.require_eq_ok_iff.mp hserver
    have haccepted := h m rfl
    simp only [Option.map_some, Option.mem_def, Option.some.injEq, forall_eq']
    exact ⟨haccepted.type, server, haccepted.server server hs, (MongoSettings.member?_toJson _).1⟩

/-- An empty name is the one thing that accepted settings of a replica set can lack. -/
theorem MongoState.Accepted.replicaSet_iff :
    (∀ m ∈ mongo.map MongoSettings.toJson, m.member? "serverType" = some (.str "replicaset") →
      ∃ name ≠ "", m.member? "replicaSetName" = some (.str name)) ↔
      ∀ m ∈ block, m.serverType = .known "replicaset" → m.replicaSetName ≠ .known "" := by
  rcases mapM_option_eq_ok_iff.mp hmongo with ⟨rfl, rfl⟩ | ⟨m, settings, rfl, rfl, hsettings⟩
  · simp
  · obtain ⟨server, hserver, hsettings⟩ := bind_eq_ok_iff.mp hsettings
    obtain rfl := Except.ok.inj hsettings
    have hs := Field.require_eq_ok_iff.mp hserver
    obtain ⟨htype, hname⟩ := MongoSettings.member?_toJson
      ⟨server, m.replicaSetName.text, m.srvRecordName.text⟩
    simp only [Option.map_some, Option.mem_def, Option.some.injEq, forall_eq', htype, hname, hs,
      Json.str.injEq, Field.known.injEq]
    refine imp_congr_right fun hreplicaSet => ?_
    obtain ⟨name, hgiven⟩ := (h m rfl).replicaSet (by rw [hs, hreplicaSet])
    rw [hgiven, Field.text_known]
    by_cases hempty : name = "" <;> simp [hempty]

end Settings

theorem member?_toJson (r : Repository) :
    r.toJson.member? "type" = some (.str r.type) ∧
    r.toJson.member? "repoNodes" = some (.arr (r.nodes.map Node.toJson)) ∧
    r.toJson.member? "mongoDbSettings" = r.mongo.map MongoSettings.toJson := by
  simp [toJson, Json.member?, Json.lookup_cons_eq, Json.lookup_optionMember]

theorem accepted_of_validate {c : State} (hc : (toValue c).Complete) (h : validate c = []) :
    (∀ type, c.type = .known type → type ∈ types) ∧ c.nodes ≠ .known [] ∧
    (∀ n ∈ c.nodes.elems, n.Accepted) ∧
    ∀ type, c.type = .known type → ∀ m ∈ c.mongo.first, m.Accepted type := by
  have hblocks := Value.complete_object_iff.mp hc
  simp only [List.forall_mem_cons] at hblocks
  obtain ⟨-, -, -, -, hnodes, hmongo, -⟩ := hblocks
  simp only [validate, List.append_eq_nil_iff, List.flatMap_eq_nil_iff] at h
  obtain ⟨⟨⟨htype, hsome⟩, hvalidNodes⟩, hvalidMongo⟩ := h
  refine ⟨?_, ?_, ?_, ?_⟩
  · intro type ht
    rw [ht] at htype
    exact Validation.oneOf_eq_nil_iff.mp htype
  · intro hempty
    simp [hempty, Validation.notEmpty] at hsome
  · intro n hn
    obtain ⟨i, hi⟩ := List.mem_iff_getElem?.mp hn
    exact NodeState.accepted_of_validateNode (Field.complete_of_mem_elems hnodes hn)
      (hvalidNodes (n, i) (List.mem_zipIdx_iff_getElem?.mpr hi))
  · intro type ht m hm
    rw [ht] at hvalidMongo
    exact MongoState.accepted_of_validateMongo
      (Field.complete_of_mem_elems hmongo (List.mem_of_head? hm))
      (hvalidMongo m (Option.mem_toList.mpr hm))

/-- What is sent of a configuration that passes its checks is well formed, unless a text is
empty. -/
theorem wellFormed_iff_spelled {c : State} {j : Json} (hc : (toValue c).Complete)
    (hvalid : validate c = []) (hj : body c = .ok j) :
    Checked c j ∧ (WellFormed c j ↔ c.Spelled) := by
  obtain ⟨r, hr, rfl⟩ := map_eq_ok_iff.mp hj
  obtain ⟨mongo, hmongo, hr⟩ := bind_eq_ok_iff.mp hr
  obtain ⟨name, -, hr⟩ := bind_eq_ok_iff.mp hr
  obtain ⟨type, htype, hr⟩ := bind_eq_ok_iff.mp hr
  obtain rfl := Except.ok.inj hr
  replace htype := Field.require_eq_ok_iff.mp htype
  obtain ⟨htypes, hsome, hnodes, hmongos⟩ := accepted_of_validate hc hvalid
  replace hmongos := hmongos type htype
  obtain ⟨htypeSent, hnodesSent, hmongoSent⟩ :=
    member?_toJson ⟨"", name, type, c.labels.strings, c.nodes.elems.map Node.ofState, mongo⟩
  have hchecked : Checked c (toJson
      ⟨"", name, type, c.labels.strings, c.nodes.elems.map Node.ofState, mongo⟩) := by
    refine ⟨⟨type, htypes type htype, htypeSent⟩, ⟨_, hnodesSent, ?_, ?_⟩, ?_⟩
    · intro hgiven hnil
      obtain ⟨ns, hns⟩ := Field.isKnown_iff.mp hgiven
      rw [hns, List.map_map, List.map_eq_nil_iff] at hnil
      exact hsome (hns.trans (congrArg _ hnil))
    · simp only [List.map_map, List.forall_mem_map]
      exact fun n hn => (hnodes n hn).checked
    · rw [hmongoSent, htypeSent]
      intro m hm
      obtain ⟨htype, hserver⟩ := MongoState.Accepted.checked hmongo hmongos m hm
      exact ⟨by rw [htype], hserver⟩
  have hreplicaSet := MongoState.Accepted.replicaSet_iff hmongo hmongos
  refine ⟨hchecked, fun hformed => ⟨fun n hn => ?_, ?_⟩, fun hspelled => ⟨hchecked, ?_, ?_⟩⟩
  · refine (hnodes n hn).host_iff.mp (hformed.host _ hnodesSent _ ?_)
    rw [List.map_map]
    exact List.mem_map_of_mem hn
  · exact hreplicaSet.mp (hmongoSent ▸ hformed.replicaSet)
  · intro nodes hsent
    rw [hnodesSent] at hsent
    obtain rfl := Json.arr.inj (Option.some.inj hsent)
    simp only [List.map_map, List.forall_mem_map]
    exact fun n hn => (hnodes n hn).host_iff.mpr (hspelled.host n hn)
  · rw [hmongoSent]
    exact hreplicaSet.mpr hspelled.replicaSet

/--
The request for a repository that passes its checks is well formed if no host and no name of a
replica set is empty, and only then. All else holds of it in any case.
-/
theorem sent_wellFormed_iff {c : State} (hc : (toValue c).Complete)
    (hvalid : resource.validateConfig (.known c) = []) (k : Connection) (session : Session) :
    k.SendsOnly (fun j => Checked c j ∧ (WellFormed c j ↔ c.Spelled)) session
      (Session.after
        (resource.createObject (some k) (resource.planCreate (.known c)) session)) := by
  have hplanned (j : Json) (hj : body (resource.markComputed c) = .ok j) :
      Checked c j ∧ (WellFormed c j ↔ c.Spelled) :=
    wellFormed_iff_spelled hc hvalid hj
  exact Resource.sendsOnly_createObject rfl hplanned .null

/-- A replica set with a node that has an address and one that has none. -/
def State.replicated : State :=
  ⟨.null, .known "mongodb", .known "orders", .null,
    .known [⟨.null, .known "mongo-0.internal", .known 27017, .known false⟩,
      ⟨.null, .null, .null, .known true⟩],
    .known [⟨.known "replicaset", .known "rs0", .null⟩]⟩

/-- A database whose host is set to an empty text. -/
def State.hostless : State :=
  ⟨.null, .known "mysql", .known "r", .null, .known [⟨.null, .known "", .known 3306, .null⟩], .null⟩

/-- A replica set whose name is set to an empty text. -/
def State.nameless : State :=
  ⟨.null, .known "mongodb", .known "r", .null,
    .known [⟨.null, .known "h", .known 27017, .null⟩],
    .known [⟨.known "replicaset", .known "", .null⟩]⟩

/-- A control plane that answers nothing. -/
def unanswered : Connection := ⟨.of "http://cp" "a" "b", fun _ _ => .dropped⟩

/-- The sessions that are left of the creation of a repository, with a token at hand. -/
def State.afterCreate (c : State) : Session :=
  Session.after (resource.createObject (some unanswered) (resource.planCreate (.known c))
    { token := some ⟨"t", none⟩ })

set_option maxRecDepth 20000 in
/-- The replica set is sent, and it is well formed. -/
theorem sent_wellFormed_replicated : ∃ j,
    State.replicated.afterCreate.log = [⟨.post, "/v1/repos", some "Bearer t", .json j⟩] ∧
      WellFormed .replicated j := by
  have hcomplete : (toValue State.replicated).Complete := by
    simp [State.replicated, toValue, Value.Complete.text, Value.Complete.null,
      Value.Complete.number, Value.Complete.bool]
  have hvalid : resource.validateConfig (.known .replicated) = [] := by
    cbv
  have hspelled : State.replicated.Spelled := by
    constructor
    · simp [State.replicated]
    · simp [State.replicated]
  obtain ⟨sent, hlog, hsent⟩ := sent_wellFormed_iff hcomplete hvalid unanswered
    { token := some ⟨"t", none⟩ }
  have hrun : ∃ j, State.replicated.afterCreate.log =
      [⟨.post, "/v1/repos", some "Bearer t", .json j⟩] := ⟨_, rfl⟩
  obtain ⟨j, hrun⟩ := hrun
  refine ⟨j, hrun, ?_⟩
  rw [State.afterCreate, hlog, List.nil_append] at hrun
  subst hrun
  rcases hsent _ (List.mem_singleton_self _) with ⟨target, htoken⟩ | ⟨j', hj', hformed⟩
  · cases htoken
  · cases hj'
    exact hformed.2.mpr hspelled

def hostlessBody : Json :=
  .obj [("name", .str "r"), ("type", .str "mysql"), ("labels", .arr []),
    ("repoNodes", .arr [.obj [("port", .int 3306), ("dynamic", .bool false)]])]

def namelessBody : Json :=
  .obj [("name", .str "r"), ("type", .str "mongodb"), ("labels", .arr []),
    ("repoNodes", .arr [.obj [("host", .str "h"), ("port", .int 27017), ("dynamic", .bool false)]]),
    ("mongoDbSettings", .obj [("serverType", .str "replicaset")])]

set_option maxRecDepth 20000 in
/-- Empty texts pass the checks, and what is sent then lacks the host, or the name of the set. -/
theorem empty_texts_unsent :
    (toValue State.hostless).Complete ∧ resource.validateConfig (.known .hostless) = [] ∧
    State.hostless.afterCreate.log = [⟨.post, "/v1/repos", some "Bearer t", .json hostlessBody⟩] ∧
    ¬ WellFormed .hostless hostlessBody ∧
    (toValue State.nameless).Complete ∧ resource.validateConfig (.known .nameless) = [] ∧
    State.nameless.afterCreate.log = [⟨.post, "/v1/repos", some "Bearer t", .json namelessBody⟩] ∧
    ¬ WellFormed .nameless namelessBody := by
  refine ⟨?_, by cbv, rfl, ?_, ?_, by cbv, rfl, ?_⟩
  · simp [State.hostless, toValue, Value.Complete.text, Value.Complete.null, Value.Complete.number]
  · intro h
    obtain ⟨host, -, hhost⟩ := h.host _ rfl _ (List.mem_singleton_self _) rfl
    cases hhost
  · simp [State.nameless, toValue, Value.Complete.text, Value.Complete.null, Value.Complete.number]
  · intro h
    obtain ⟨name, -, hname⟩ := h.replicaSet _ rfl rfl
    cases hname

end Repository
end ControlPlane
