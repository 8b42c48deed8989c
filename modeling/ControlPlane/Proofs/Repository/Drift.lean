import ControlPlane.Proofs.Attribute
import ControlPlane.Proofs.Codec
import ControlPlane.Proofs.Lifecycle
import ControlPlane.Repository.Resource

/-!
Repositories that are read back as they were sent. The states that a read leaves unchanged are told
apart attribute by attribute.
-/
namespace ControlPlane.Repository

/-- What a request for a repository cannot do without. -/
structure State.Sendable (s : State) : Prop where
  name : s.name.isKnown
  type : s.type.isKnown
  serverType : ∀ m ∈ s.mongo.first, m.serverType.isKnown

/-- A node whose parts are told or null. An empty or zero part is not told. -/
structure NodeState.Canonical (n : NodeState) : Prop where
  name : n.name.NullOr (· ≠ "")
  host : n.host.NullOr (· ≠ "")
  port : n.port.NullOr (· ≠ 0)
  dynamic : n.dynamic.NullOr fun _ => True

structure MongoState.Canonical (m : MongoState) : Prop where
  replicaSetName : m.replicaSetName.NullOr (· ≠ "")
  srvRecordName : m.srvRecordName.NullOr (· ≠ "")

/-- The states that a reply leaves as they are when it tells what was sent. -/
structure State.Canonical (s : State) : Prop where
  labels : s.labels.NullOr fun vs => ∀ v ∈ vs, v.isKnown
  nodes : s.nodes.KnownWith fun ns => ∀ n ∈ ns, n.Canonical
  mongo : s.mongo.KnownWith fun ms => ms.length ≤ 1 ∧ ∀ m ∈ ms, m.Canonical

/-- The node that is read back in the place of one that was sent. -/
def NodeState.readBack (n : NodeState) : NodeState := (Node.ofState n).toState n.dynamic

def MongoState.readBack (m : MongoState) : MongoState where
  serverType := m.serverType
  replicaSetName := .ofText m.replicaSetName.text
  srvRecordName := .ofText m.srvRecordName.text

theorem NodeState.readBack_eq_self_iff (n : NodeState) : n.readBack = n ↔ n.Canonical := by
  obtain ⟨name, host, port, dynamic⟩ := n
  simp only [readBack, Node.ofState, Node.toState, mk.injEq, Field.ofText_text_eq_self,
    Field.ofNumber_getD_eq_self, Field.ofFlag_getD_eq_self]
  constructor
  · rintro ⟨hname, hhost, hport, hdynamic⟩
    exact ⟨hname, hhost, hport, hdynamic⟩
  · intro h
    exact ⟨h.name, h.host, h.port, h.dynamic⟩

theorem MongoState.readBack_eq_self_iff (m : MongoState) : m.readBack = m ↔ m.Canonical := by
  obtain ⟨serverType, replicaSetName, srvRecordName⟩ := m
  simp only [readBack, mk.injEq, true_and, Field.ofText_text_eq_self]
  constructor
  · rintro ⟨hname, hrecord⟩
    exact ⟨hname, hrecord⟩
  · intro h
    exact ⟨h.replicaSetName, h.srvRecordName⟩

/-- Each node is read back in view of the one that it comes from. -/
theorem refreshNodes_map_ofState (ns : List NodeState) :
    refreshNodes (ns.map Node.ofState) ns = ns.map NodeState.readBack := by
  induction ns with
  | nil => rfl
  | cons n ns ih =>
    rw [List.map_cons, List.map_cons, refreshNodes, ih]
    rfl

theorem MongoSettings.ofState_eq_ok_iff {m : MongoState} {a : MongoSettings} :
    ofState m = .ok a ↔ m.serverType = .known a.serverType ∧
      a.replicaSetName = m.replicaSetName.text ∧ a.srvRecordName = m.srvRecordName.text := by
  simp only [ofState, bind_eq_ok_iff, Field.require_eq_ok_iff, pure_eq_ok, Except.ok.injEq]
  constructor
  · intro h
    obtain ⟨serverType, htype, rfl⟩ := h
    exact ⟨htype, rfl, rfl⟩
  · intro h
    obtain ⟨htype, hname, hrecord⟩ := h
    refine ⟨a.serverType, htype, ?_⟩
    rw [← hname, ← hrecord]

theorem MongoSettings.toState_of_ofState {m : MongoState} {a : MongoSettings}
    (h : ofState m = .ok a) : a.toState = m.readBack := by
  obtain ⟨htype, hname, hrecord⟩ := ofState_eq_ok_iff.mp h
  simp only [toState, MongoState.readBack, htype, hname, hrecord]

theorem map_toState_of_mapM_ofState {block : Option MongoState} {a : Option MongoSettings}
    (h : block.mapM MongoSettings.ofState = .ok a) :
    a.map MongoSettings.toState = block.map MongoState.readBack :=
  map_eq_of_mapM_option (fun _ _ => MongoSettings.toState_of_ofState) h

theorem ofState_eq_ok_iff {s : State} {r : Repository} :
    ofState s = .ok r ↔ s.mongo.first.mapM MongoSettings.ofState = .ok r.mongo ∧
      s.name = .known r.name ∧ s.type = .known r.type ∧ r.id = "" ∧
      r.labels = s.labels.strings ∧ r.nodes = s.nodes.elems.map Node.ofState := by
  simp only [ofState, bind_eq_ok_iff, Field.require_eq_ok_iff, pure_eq_ok, Except.ok.injEq]
  constructor
  · intro h
    obtain ⟨mongo, hmongo, name, hname, type, htype, rfl⟩ := h
    exact ⟨hmongo, hname, htype, rfl, rfl, rfl⟩
  · intro h
    obtain ⟨hmongo, hname, htype, hid, hlabels, hnodes⟩ := h
    refine ⟨r.mongo, hmongo, r.name, hname, r.type, htype, ?_⟩
    rw [← hid, ← hlabels, ← hnodes]

theorem body_isOk_iff (s : State) : (∃ j, body s = .ok j) ↔ s.Sendable := by
  have hmongo : (∃ mongo, s.mongo.first.mapM MongoSettings.ofState = .ok mongo) ↔
      ∀ m ∈ s.mongo.first, m.serverType.isKnown := by
    cases s.mongo.first with
    | none => simp
    | some m =>
      cases h : m.serverType <;>
        simp [MongoSettings.ofState, Field.require, Field.isKnown, h]
  simp only [body, map_eq_ok_iff]
  constructor
  · intro h
    obtain ⟨_, r, hr, rfl⟩ := h
    obtain ⟨hm, hname, htype, -⟩ := ofState_eq_ok_iff.mp hr
    exact ⟨by rw [hname]; rfl, by rw [htype]; rfl, hmongo.mp ⟨_, hm⟩⟩
  · intro h
    obtain ⟨mongo, hm⟩ := hmongo.mpr h.serverType
    obtain ⟨name, hname⟩ := Field.isKnown_iff.mp h.name
    obtain ⟨type, htype⟩ := Field.isKnown_iff.mp h.type
    refine ⟨_, ⟨"", name, type, s.labels.strings, s.nodes.elems.map Node.ofState, mongo⟩, ?_, rfl⟩
    exact ofState_eq_ok_iff.mpr ⟨hm, hname, htype, rfl, rfl, rfl⟩

/-- What a reply leaves of the state whose request it repeats. -/
theorem refresh_eq_self_iff {s : State} {r : Repository} (h : ofState s = .ok r) :
    refresh r s = s ↔ s.Canonical := by
  obtain ⟨hmongo, hname, htype, -, hlabels, hnodes⟩ := ofState_eq_ok_iff.mp h
  have hback := map_toState_of_mapM_ofState hmongo
  obtain ⟨id, type, name, labels, nodes, mongo⟩ := s
  simp only at hname htype hlabels hnodes hback
  simp only [refresh, State.mk.injEq, hname, htype, hlabels, hnodes, hback, true_and,
    Field.ofStrings_strings_eq_self, refreshNodes_map_ofState, Field.known_map_elems_eq_self,
    Field.single_map_first_eq_self, NodeState.readBack_eq_self_iff,
    MongoState.readBack_eq_self_iff]
  constructor
  · rintro ⟨hlabels, hnodes, hmongo⟩
    exact ⟨hlabels, hnodes, hmongo⟩
  · intro h
    exact ⟨h.labels, h.nodes, h.mongo⟩

/--
A reply that repeats what is sent for a repository is always taken in, and the canonical states are
the ones that it leaves as they are.
-/
theorem read_of_sent_eq_self_iff_canonical (s : State) :
    ((∃ sent, body s = .ok sent) ↔ s.Sendable) ∧
    ∀ sent told reply, body s = .ok sent → Json.parse? reply = some told →
      Json.Same told (.obj [("repo", sent)]) →
      ∃ s', (s' = s ↔ s.Canonical) ∧ (∀ url, resource.read.absorb url reply s = .ok s') ∧
        ∀ (k : Connection) (id : String) (kept : Field Unit) (session session' : Session),
          s.id = .known id →
          k.send .get (k.client.baseUrl ++ "/v1/repos/" ++ id) [] .none session =
            .ok reply session' →
          resource.readObject (some k) ⟨.known s, kept⟩ session =
            .ok ⟨.known s', kept⟩ session' := by
  refine ⟨body_isOk_iff s, ?_⟩
  intro sent told reply hsent htold hsame
  obtain ⟨r, hr, rfl⟩ := map_eq_ok_iff.mp hsent
  have hid : r.id = "" := (ofState_eq_ok_iff.mp hr).2.2.2.1
  have hread : Json.only? "repo" ofJson? told = some r := by
    rw [ofJson?_unordered.only? "repo" _ _ hsame, Json.only?_obj, ofJson?_toJson, ← hid]
  have habsorb (url : String) : resource.read.absorb url reply s = .ok (refresh r s) := by
    have hwrite : resource.read.Writes told s (refresh r s) :=
      (Operation.writes_iff_of_response_eq_of rfl).mpr ⟨r, hread, rfl⟩
    exact Operation.absorb_of_writes rfl htold hwrite
  refine ⟨refresh r s, refresh_eq_self_iff hr, habsorb, ?_⟩
  intro k id kept session session' hid hsend
  rw [Resource.readObject_eq_ok_known_iff]
  refine ⟨rfl, k, rfl, _, .none, reply, ?_, rfl, hsend, habsorb _⟩
  simp [resource, objectUrl, hid]

/-- A cluster with one node, whose address is given at connection time. -/
def State.sharded : State where
  id := .known "r1"
  type := .known "mongodb"
  name := .known "r"
  labels := .null
  nodes := .known [⟨.null, .null, .known 7, .known true⟩]
  mongo := .known [⟨.known "sharded", .null, .null⟩]

/-- Tells of the cluster, with its type before its name. -/
def shardedReply : List UInt8 :=
  Text.utf8 ("\x7b\"repo\":\x7b\"type\":\"mongodb\",\"name\":\"r\",\"labels\":[]," ++
    "\"repoNodes\":[\x7b\"port\":7,\"dynamic\":true\x7d]," ++
    "\"mongoDbSettings\":\x7b\"serverType\":\"sharded\"\x7d\x7d\x7d").toList

set_option maxRecDepth 20000 in
theorem read_of_sent_sharded :
    ∃ sent told session, body .sharded = .ok sent ∧ Json.parse? shardedReply = some told ∧
      Json.Same told (.obj [("repo", sent)]) ∧ State.sharded.Canonical ∧
      resource.readObject
          (some ⟨.of "http://cp" "a" "b", fun _ _ => .complete 200 shardedReply⟩)
          ⟨.known .sharded, .null⟩ { token := some ⟨"t", none⟩ } =
        .ok ⟨.known .sharded, .null⟩ session := by
  have hsent : body .sharded = .ok (.obj [("name", .str "r"), ("type", .str "mongodb"),
      ("labels", .arr []), ("repoNodes", .arr [.obj [("port", .int 7), ("dynamic", .bool true)]]),
      ("mongoDbSettings", .obj [("serverType", .str "sharded")])]) := by
    cbv
  have htold : Json.parse? shardedReply = some (.obj [("repo", .obj [("type", .str "mongodb"),
      ("name", .str "r"), ("labels", .arr []),
      ("repoNodes", .arr [.obj [("port", .int 7), ("dynamic", .bool true)]]),
      ("mongoDbSettings", .obj [("serverType", .str "sharded")])])]) := by
    cbv
  have hsame := Json.Same.single "repo" (.of_perm (.swap ("name", .str "r")
    ("type", .str "mongodb") [("labels", .arr []),
      ("repoNodes", .arr [.obj [("port", .int 7), ("dynamic", .bool true)]]),
      ("mongoDbSettings", .obj [("serverType", .str "sharded")])]))
  have hcanonical : State.sharded.Canonical := by
    refine ⟨trivial, ?_, ?_⟩
    · intro n hn
      obtain rfl := List.mem_singleton.mp hn
      exact ⟨trivial, trivial, show (7 : Int64) ≠ 0 by decide, trivial⟩
    · refine ⟨Nat.le_refl 1, ?_⟩
      intro m hm
      obtain rfl := List.mem_singleton.mp hm
      exact ⟨trivial, trivial⟩
  obtain ⟨s', hs', -, hread⟩ :=
    (read_of_sent_eq_self_iff_canonical .sharded).2 _ _ shardedReply hsent htold hsame
  rw [hs'.mpr hcanonical] at hread
  exact ⟨_, _, _, hsent, htold, hsame, hcanonical, hread _ "r1" .null _ _ rfl rfl⟩

end ControlPlane.Repository
