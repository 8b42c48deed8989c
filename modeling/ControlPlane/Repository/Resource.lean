import ControlPlane.Repository.State
import ControlPlane.Resource.Basic

/-! Repositories as managed objects. -/
namespace ControlPlane.Repository

def Node.ofState (n : NodeState) : Node where
  name := n.name.text
  host := n.host.text
  port := n.port.getD 0
  dynamic := n.dynamic.getD false

def MongoSettings.ofState (m : MongoState) : Except Failure MongoSettings := do
  let serverType ← m.serverType.require "mongodb_settings.server_type"
  return {
    serverType
    replicaSetName := m.replicaSetName.text
    srvRecordName := m.srvRecordName.text }

def ofState (s : State) : Except Failure Repository := do
  let mongo ← s.mongo.first.mapM MongoSettings.ofState
  let name ← s.name.require "name"
  let type ← s.type.require "type"
  return {
    id := "", name, type, mongo
    labels := s.labels.strings
    nodes := s.nodes.elems.map Node.ofState }

def Node.toState (n : Node) (prior : Field Bool) : NodeState where
  name := .ofText n.name
  host := .ofText n.host
  port := .ofNumber n.port
  dynamic := .ofFlag n.dynamic prior

/-- Nodes are told apart by their position only. -/
def refreshNodes : List Node → List NodeState → List NodeState
  | [], _ => []
  | n :: ns, prior :: priors => n.toState prior.dynamic :: refreshNodes ns priors
  | n :: ns, [] => n.toState .null :: refreshNodes ns []

def MongoSettings.toState (m : MongoSettings) : MongoState where
  serverType := .known m.serverType
  replicaSetName := .ofText m.replicaSetName
  srvRecordName := .ofText m.srvRecordName

def refresh (r : Repository) (s : State) : State where
  id := s.id
  type := .known r.type
  name := .known r.name
  labels := .ofStrings r.labels s.labels
  nodes := .known (refreshNodes r.nodes s.nodes.elems)
  mongo := .single (r.mongo.map MongoSettings.toState)

def collectionUrl (_ : State) (base : String) : Except Failure String :=
  .ok (base ++ "/v1/repos")

def objectUrl (s : State) (base : String) : Except Failure String := do
  return base ++ "/v1/repos/" ++ (← s.id.require "id")

def body (s : State) : Except Failure Json := (ofState s).map toJson

def imported (id : String) : State := ⟨.known id, .null, .null, .null, .null, .null⟩

def resource : Resource State where
  name := "repository"
  schema := schema
  validate := validate
  markComputed s := { s with id := .unknown }
  importState id := .ok (imported id)
  create :=
    { resource := "repository", kind := .create, method := .post, url := collectionUrl
      body := some body
      response := some (.of (Json.only? "id" Json.text?) fun id s => { s with id := .known id }) }
  read :=
    { resource := "repository", kind := .read, method := .get, url := objectUrl
      response := some (.of (Json.only? "repo" ofJson?) refresh) }
  update := some
    { resource := "repository", kind := .update, method := .put, url := objectUrl
      body := some body }
  delete := { resource := "repository", kind := .delete, method := .delete, url := objectUrl }

end ControlPlane.Repository
