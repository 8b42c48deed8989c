import ControlPlane.Repository.Basic
import ControlPlane.Schema
import ControlPlane.Validation
import ControlPlane.Value

/-! The configuration of a repository. -/
namespace ControlPlane.Repository

structure NodeState where
  name : Field String
  host : Field String
  port : Field Int64
  dynamic : Field Bool
  deriving DecidableEq, Repr

structure MongoState where
  serverType : Field String
  replicaSetName : Field String
  srvRecordName : Field String
  deriving DecidableEq, Repr

structure State where
  id : Field String
  type : Field String
  name : Field String
  labels : StringList
  nodes : Field (List NodeState)
  /-- At most one block. -/
  mongo : Field (List MongoState)
  deriving DecidableEq, Repr

open Exchange (toValue)

instance : Exchange NodeState where
  toValue n := .object [("name", toValue n.name), ("host", toValue n.host),
    ("port", toValue n.port), ("dynamic", toValue n.dynamic)]
  ofValue? v := do
    return {
      name := ← v.attribute? "name"
      host := ← v.attribute? "host"
      port := ← v.attribute? "port"
      dynamic := ← v.attribute? "dynamic" }

instance : Exchange MongoState where
  toValue m := .object [("server_type", toValue m.serverType),
    ("replica_set_name", toValue m.replicaSetName), ("srv_record_name", toValue m.srvRecordName)]
  ofValue? v := do
    return {
      serverType := ← v.attribute? "server_type"
      replicaSetName := ← v.attribute? "replica_set_name"
      srvRecordName := ← v.attribute? "srv_record_name" }

instance : Exchange State where
  toValue s := .object [("id", toValue s.id), ("type", toValue s.type), ("name", toValue s.name),
    ("labels", toValue s.labels), ("repo_node", toValue s.nodes),
    ("mongodb_settings", toValue s.mongo)]
  ofValue? v := do
    return {
      id := ← v.attribute? "id"
      type := ← v.attribute? "type"
      name := ← v.attribute? "name"
      labels := ← v.attribute? "labels"
      nodes := ← v.attribute? "repo_node"
      mongo := ← v.attribute? "mongodb_settings" }

def schema : Schema := .of
  (.markdown "Manages [repositories](https://cyral.com/docs/manage-repositories/repo-track).")
  [("id", .id),
    ("type", .required .string s!"Repository type, one of: {Text.commas types}."),
    ("name", .required .string "Repository name."),
    ("labels", .optional .stringList
      "Labels enabling the use of the repository in policies.")]
  [("repo_node", .list, .mk
      (.plain "Node of the repository. At least one node is required.")
      [("name", .optional .string "Name of the node."),
        ("host", .optional .string "Host of the node. Must not be set on dynamic nodes."),
        ("port", .optional .number "Port of the node. Must not be set on dynamic nodes."),
        ("dynamic", .optional .bool
          "Whether the address of the node is given at connection time.")] []),
    ("mongodb_settings", .optional, .mk
      (.plain "MongoDB cluster settings, only for `mongodb` repositories.")
      [("server_type", .required .string
          s!"Type of MongoDB deployment, one of: {Text.commas mongoServerTypes}."),
        ("replica_set_name", .optional .string
          "Name of the replica set. Required for `replicaset`."),
        ("srv_record_name", .optional .string "Name of the DNS SRV record of the cluster.")] [])]

/-- The parts of an address that `given` picks out. -/
def addressParts (n : NodeState) (given : {α : Type} → Field α → Bool) : List String :=
  (if given n.host then ["host"] else []) ++ (if given n.port then ["port"] else [])

/-- A dynamic node has no address, and any other has a whole one. -/
def validateNode (path : Path) (n : NodeState) : List Diagnostic :=
  Validation.port (path.attr "port") n.port ++
    match n.dynamic with
    | .known true => (addressParts n Field.isKnown).map fun part =>
      { summary := "Dynamic nodes have no address"
        detail := s!"`{part}` must not be set on a dynamic node", path := path.attr part }
    | .unknown => []
    | _ => (addressParts n Field.isNull).map fun part =>
      { summary := "Missing node address"
        detail := s!"`{part}` is required on a static node", path := path.attr part }

/-- The settings go with one type of repository, and a replica set has a name. -/
def validateMongo (type : Field String) (m : MongoState) : List Diagnostic :=
  let path := (Path.of "mongodb_settings").item 0
  (match type with
    | .known "mongodb" => []
    | .known _ =>
      [{ summary := "Unexpected MongoDB settings"
         detail := "`mongodb_settings` can only be set on repositories of type `mongodb`"
         path := .of "mongodb_settings" }]
    | _ => []) ++
    Validation.oneOf (path.attr "server_type") m.serverType mongoServerTypes ++
    (if m.serverType = .known "replicaset" ∧ m.replicaSetName.isNull then
      [{ summary := "Missing replica set name"
         detail := "`replica_set_name` is required when `server_type` is `replicaset`"
         path := path.attr "replica_set_name" }]
    else [])

def validate (s : State) : List Diagnostic :=
  Validation.oneOf (.of "type") s.type types ++
    Validation.notEmpty (.of "repo_node") s.nodes ++
    (s.nodes.elems.zipIdx.flatMap fun (n, i) =>
      validateNode ((Path.of "repo_node").item i) n) ++
    (s.mongo.first.toList.flatMap (validateMongo s.type))

end ControlPlane.Repository
