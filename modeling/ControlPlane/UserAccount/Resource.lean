import ControlPlane.ComposedId
import ControlPlane.Resource.Basic
import ControlPlane.UserAccount.Basic
import ControlPlane.UserAccount.State

/-! Accounts as managed objects. The ID of one is composed of the repository's and its own. -/
namespace ControlPlane.UserAccount

def EnvironmentVariable.ofState (e : EnvironmentVariableState) :
    Except Failure EnvironmentVariable := do
  return { variableName := ← e.variableName.require "variable_name" }

def KubernetesSecret.ofState (k : KubernetesSecretState) : Except Failure KubernetesSecret := do
  return {
    secretName := ← k.secretName.require "secret_name"
    secretKey := ← k.secretKey.require "secret_key" }

def AwsSecret.ofState (a : AwsSecretState) : Except Failure AwsSecret := do
  return { secretArn := ← a.secretArn.require "secret_arn" }

def Vault.ofState (h : VaultState) : Except Failure Vault := do
  return { path := ← h.path.require "path", isDynamic := h.isDynamic.getD false }

def AuthScheme.ofState (a : AuthSchemeState) : Except Failure AuthScheme := do
  return {
    environmentVariable := ← a.environmentVariable.first.mapM EnvironmentVariable.ofState
    kubernetesSecret := ← a.kubernetesSecret.first.mapM KubernetesSecret.ofState
    awsSecret := ← a.awsSecret.first.mapM AwsSecret.ofState
    vault := ← a.vault.first.mapM Vault.ofState }

def ofState (s : State) : Except Failure UserAccount := do
  let scheme ← s.authScheme.require "auth_scheme"
  let authScheme ← AuthScheme.ofState scheme
  let name ← s.name.require "name"
  return { name, authScheme, authDatabaseName := s.authDatabaseName.text }

def Vault.toState (h : Vault) (prior : Field Bool) : VaultState where
  path := .known h.path
  isDynamic := .ofFlag h.isDynamic prior

/-- The flag of the block that the state holds. -/
def State.priorDynamic (s : State) : Field Bool :=
  ((s.authScheme.known?.bind (·.vault.first)).map (·.isDynamic)).getD .null

def AuthScheme.toState (a : AuthScheme) (priorDynamic : Field Bool) : AuthSchemeState where
  environmentVariable := .single (a.environmentVariable.map fun e => ⟨.known e.variableName⟩)
  kubernetesSecret :=
    .single (a.kubernetesSecret.map fun k => ⟨.known k.secretName, .known k.secretKey⟩)
  awsSecret := .single (a.awsSecret.map fun s => ⟨.known s.secretArn⟩)
  vault := .single (a.vault.map (·.toState priorDynamic))

def refresh (u : UserAccount) (s : State) : State where
  id := s.id
  repositoryId := s.repositoryId
  userAccountId := s.userAccountId
  name := .known u.name
  authDatabaseName := .ofText u.authDatabaseName
  authScheme := .known (u.authScheme.toState s.priorDynamic)

/-- Takes the ID that the control plane gives to a new account. -/
def created (id : String) : Writer State Unit := do
  let repositoryId ← liftExcept ((← get).repositoryId.require "repository_id")
  modify fun s => { s with id := .known (ComposedId.join ComposedId.separator [repositoryId, id]) }
  modify fun s => { s with userAccountId := .known id }

def collectionUrl (s : State) (base : String) : Except Failure String := do
  return base ++ "/v1/repos/" ++ (← s.repositoryId.require "repository_id") ++ "/userAccounts"

def objectUrl (s : State) (base : String) : Except Failure String := do
  return (← collectionUrl s base) ++ "/" ++ (← s.userAccountId.require "user_account_id")

def body (s : State) : Except Failure Json := (ofState s).map toJson

def importState : String → Except Failure State :=
  ComposedId.importPair fun id repositoryId userAccountId =>
    ⟨.known id, .known repositoryId, .known userAccountId, .null, .null, .null⟩

def resource : Resource State where
  name := "repository_user_account"
  schema := schema
  validate := validate
  markComputed s := { s with id := .unknown, userAccountId := .unknown }
  replaceTriggers prior proposed :=
    Resource.changed "repository_id" prior.repositoryId proposed.repositoryId
  importState := importState
  create :=
    { resource := "repository_user_account", kind := .create, method := .post
      url := collectionUrl, body := some body
      response := some fun j => (Json.only? "userAccountId" Json.text? j).map created }
  read :=
    { resource := "repository_user_account", kind := .read, method := .get, url := objectUrl
      response := some (.of ofJson? refresh) }
  update := some
    { resource := "repository_user_account", kind := .update, method := .put, url := objectUrl
      body := some body }
  delete :=
    { resource := "repository_user_account", kind := .delete, method := .delete, url := objectUrl }

end ControlPlane.UserAccount
