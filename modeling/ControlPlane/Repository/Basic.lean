import ControlPlane.Json.Record

/-! Repositories as the control plane holds them: databases that sidecars protect. -/
namespace ControlPlane.Repository

structure Node where
  name : String
  host : String
  port : Int64
  dynamic : Bool
  deriving DecidableEq, Repr

structure MongoSettings where
  serverType : String
  replicaSetName : String
  srvRecordName : String
  deriving DecidableEq, Repr

end Repository

structure Repository where
  /-- The ID is read and never sent. -/
  id : String
  name : String
  type : String
  labels : List String
  nodes : List Repository.Node
  mongo : Option Repository.MongoSettings
  deriving DecidableEq, Repr

namespace Repository

def types : List String :=
  ["denodo", "dremio", "dynamodb", "dynamodbstreams", "galera", "mariadb", "mongodb", "mysql",
    "oracle", "postgresql", "redshift", "s3", "snowflake", "sqlserver"]

def mongoServerTypes : List String := ["replicaset", "standalone", "sharded"]

namespace Node

def toJson (n : Node) : Json :=
  .obj (Json.textMember "name" n.name ++ Json.textMember "host" n.host ++
    Json.memberIf (n.port ≠ 0) "port" (.number n.port) ++ [("dynamic", .bool n.dynamic)])

def ofJson? (j : Json) : Option Node := do
  let given ← j.fields? ["name", "host", "port", "dynamic"]
  return {
    name := ← Json.fieldD? given "name" Json.text? ""
    host := ← Json.fieldD? given "host" Json.text? ""
    port := ← Json.fieldD? given "port" Json.int64? 0
    dynamic := ← Json.fieldD? given "dynamic" Json.bool? false }

end Node

namespace MongoSettings

def toJson (m : MongoSettings) : Json :=
  .obj (("serverType", .str m.serverType) :: Json.textMember "replicaSetName" m.replicaSetName ++
    Json.textMember "srvRecordName" m.srvRecordName)

def ofJson? (j : Json) : Option MongoSettings := do
  let given ← j.fields? ["serverType", "replicaSetName", "srvRecordName"]
  return {
    serverType := ← Json.field? given "serverType" Json.text?
    replicaSetName := ← Json.fieldD? given "replicaSetName" Json.text? ""
    srvRecordName := ← Json.fieldD? given "srvRecordName" Json.text? "" }

end MongoSettings

def toJson (r : Repository) : Json :=
  .obj ([("name", .str r.name), ("type", .str r.type), ("labels", .strings r.labels),
    ("repoNodes", .arr (r.nodes.map Node.toJson))] ++
    Json.optionMember "mongoDbSettings" MongoSettings.toJson r.mongo)

def ofJson? (j : Json) : Option Repository := do
  let given ← j.fields? ["id", "name", "type", "labels", "repoNodes", "mongoDbSettings"]
  return {
    id := ← Json.fieldD? given "id" Json.text? ""
    name := ← Json.field? given "name" Json.text?
    type := ← Json.field? given "type" Json.text?
    labels := ← Json.fieldD? given "labels" Json.texts? []
    nodes := ← Json.fieldD? given "repoNodes" (Json.list? Node.ofJson?) []
    mongo := ← Json.fieldD? given "mongoDbSettings" (Json.option? MongoSettings.ofJson?) none }

end ControlPlane.Repository
