import ControlPlane.AuthSettings.State
import ControlPlane.Resource.Basic

/-!
Authentication settings as managed objects. A repository always has its settings, so that to create
them is to put others in their place.
-/
namespace ControlPlane.AuthSettings

def ofState (s : State) : Except Failure AuthSettings := do
  return {
    allowNativeAuth := s.allowNativeAuth.getD false
    clientTls := ← s.clientTls.require "client_tls"
    repoTls := ← s.repoTls.require "repo_tls"
    authType := ← s.authType.require "auth_type" }

def refresh (a : AuthSettings) (s : State) : State where
  id := s.repositoryId
  repositoryId := s.repositoryId
  allowNativeAuth := .known a.allowNativeAuth
  clientTls := .known a.clientTls
  repoTls := .known a.repoTls
  authType := .known a.authType

def objectUrl (s : State) (base : String) : Except Failure String := do
  return base ++ "/v1/repos/" ++ (← s.repositoryId.require "repository_id") ++ "/conf/auth"

def body (s : State) : Except Failure Json := (ofState s).map toJson

def imported (id : String) : State := ⟨.known id, .known id, .null, .null, .null, .null⟩

def resource : Resource State where
  name := "repository_conf_auth"
  schema := schema
  validate := validate
  applyDefaults := applyDefaults
  markComputed s := { s with id := s.repositoryId }
  replaceTriggers prior proposed :=
    Resource.changed "repository_id" prior.repositoryId proposed.repositoryId
  importState id := .ok (imported id)
  create :=
    { resource := "repository_conf_auth", kind := .create, method := .put, url := objectUrl
      body := some body }
  read :=
    { resource := "repository_conf_auth", kind := .read, method := .get, url := objectUrl
      response := some (.of (Json.only? "authInfo" ofJson?) refresh) }
  update := some
    { resource := "repository_conf_auth", kind := .update, method := .put, url := objectUrl
      body := some body }
  delete :=
    { resource := "repository_conf_auth", kind := .delete, method := .delete, url := objectUrl }

end ControlPlane.AuthSettings
