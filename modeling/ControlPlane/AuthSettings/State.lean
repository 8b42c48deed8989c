import ControlPlane.AuthSettings.Basic
import ControlPlane.Schema
import ControlPlane.Validation
import ControlPlane.Value

/-! The configuration of a repository's authentication. -/
namespace ControlPlane.AuthSettings

structure State where
  id : Field String
  repositoryId : Field String
  allowNativeAuth : Field Bool
  clientTls : Field String
  repoTls : Field String
  authType : Field String
  deriving DecidableEq, Repr

open Exchange (toValue)

instance : Exchange State where
  toValue s := .object [("id", toValue s.id), ("repository_id", toValue s.repositoryId),
    ("allow_native_auth", toValue s.allowNativeAuth), ("client_tls", toValue s.clientTls),
    ("repo_tls", toValue s.repoTls), ("auth_type", toValue s.authType)]
  ofValue? v := do
    return {
      id := ← v.attribute? "id"
      repositoryId := ← v.attribute? "repository_id"
      allowNativeAuth := ← v.attribute? "allow_native_auth"
      clientTls := ← v.attribute? "client_tls"
      repoTls := ← v.attribute? "repo_tls"
      authType := ← v.attribute? "auth_type" }

def defaultTls : String := "disable"

def defaultAuthType : String := "ACCESS_TOKEN"

def schema : Schema := .of (.plain "Manages the authentication settings of a repository.")
  [("id", .id),
    ("repository_id", .required .string "ID of the repository."),
    ("allow_native_auth", .optionalComputed .bool
      "Whether users can authenticate with their database credentials. Defaults to `false`."),
    ("client_tls", .optionalComputed .string
      ("TLS mode between clients and the sidecar, one of: " ++ Text.commas tlsModes ++
        ". Defaults to `" ++ defaultTls ++ "`.")),
    ("repo_tls", .optionalComputed .string
      ("TLS mode between the sidecar and the repository, one of: " ++ Text.commas tlsModes ++
        ". Defaults to `" ++ defaultTls ++ "`.")),
    ("auth_type", .optionalComputed .string
      ("Authentication type, one of: " ++ Text.commas authTypes ++ ". Defaults to `" ++
        defaultAuthType ++ "`."))]
  []

def validate (s : State) : List Diagnostic :=
  Validation.oneOf (.of "client_tls") s.clientTls tlsModes ++
    Validation.oneOf (.of "repo_tls") s.repoTls tlsModes ++
    Validation.oneOf (.of "auth_type") s.authType authTypes

def applyDefaults (s : State) : State :=
  { s with
    allowNativeAuth := s.allowNativeAuth.orDefault false
    clientTls := s.clientTls.orDefault defaultTls
    repoTls := s.repoTls.orDefault defaultTls
    authType := s.authType.orDefault defaultAuthType }

end ControlPlane.AuthSettings
