import ControlPlane.Schema
import ControlPlane.Validation
import ControlPlane.Value

/-! The configuration of an account of a repository. -/
namespace ControlPlane.UserAccount

structure EnvironmentVariableState where
  variableName : Field String
  deriving DecidableEq, Repr

structure KubernetesSecretState where
  secretName : Field String
  secretKey : Field String
  deriving DecidableEq, Repr

structure AwsSecretState where
  secretArn : Field String
  deriving DecidableEq, Repr

structure VaultState where
  path : Field String
  isDynamic : Field Bool
  deriving DecidableEq, Repr

/-- At most one block in each list. -/
structure AuthSchemeState where
  environmentVariable : Field (List EnvironmentVariableState)
  kubernetesSecret : Field (List KubernetesSecretState)
  awsSecret : Field (List AwsSecretState)
  vault : Field (List VaultState)
  deriving DecidableEq, Repr

structure State where
  id : Field String
  repositoryId : Field String
  userAccountId : Field String
  name : Field String
  authDatabaseName : Field String
  authScheme : Field AuthSchemeState
  deriving DecidableEq, Repr

open Exchange (toValue)

instance : Exchange EnvironmentVariableState where
  toValue e := .object [("variable_name", toValue e.variableName)]
  ofValue? v := do return { variableName := ← v.attribute? "variable_name" }

instance : Exchange KubernetesSecretState where
  toValue k := .object [("secret_name", toValue k.secretName), ("secret_key", toValue k.secretKey)]
  ofValue? v := do
    return { secretName := ← v.attribute? "secret_name", secretKey := ← v.attribute? "secret_key" }

instance : Exchange AwsSecretState where
  toValue a := .object [("secret_arn", toValue a.secretArn)]
  ofValue? v := do return { secretArn := ← v.attribute? "secret_arn" }

instance : Exchange VaultState where
  toValue h := .object [("path", toValue h.path), ("is_dynamic_user_account", toValue h.isDynamic)]
  ofValue? v := do
    return { path := ← v.attribute? "path", isDynamic := ← v.attribute? "is_dynamic_user_account" }

instance : Exchange AuthSchemeState where
  toValue a := .object [("environment_variable", toValue a.environmentVariable),
    ("kubernetes_secret", toValue a.kubernetesSecret), ("aws_secrets_manager", toValue a.awsSecret),
    ("hashicorp_vault", toValue a.vault)]
  ofValue? v := do
    return {
      environmentVariable := ← v.attribute? "environment_variable"
      kubernetesSecret := ← v.attribute? "kubernetes_secret"
      awsSecret := ← v.attribute? "aws_secrets_manager"
      vault := ← v.attribute? "hashicorp_vault" }

instance : Exchange State where
  toValue s := .object [("id", toValue s.id), ("repository_id", toValue s.repositoryId),
    ("user_account_id", toValue s.userAccountId), ("name", toValue s.name),
    ("auth_database_name", toValue s.authDatabaseName), ("auth_scheme", toValue s.authScheme)]
  ofValue? v := do
    return {
      id := ← v.attribute? "id"
      repositoryId := ← v.attribute? "repository_id"
      userAccountId := ← v.attribute? "user_account_id"
      name := ← v.attribute? "name"
      authDatabaseName := ← v.attribute? "auth_database_name"
      authScheme := ← v.attribute? "auth_scheme" }

def schema : Schema := .of (.plain "Manages a user account of a repository.")
  [("id", .id),
    ("repository_id", .required .string "ID of the repository the account belongs to."),
    ("user_account_id", .computed .string "ID of the user account."),
    ("name", .required .string "Name of the account in the database."),
    ("auth_database_name", .optional .string "Database the account authenticates against.")]
  [("auth_scheme", .single, .mk
      (.plain
        "Where the credentials of the account are stored. Exactly one scheme must be given.") []
      [("environment_variable", .optional, .mk
          (.plain "Credentials in an environment variable of the sidecar.")
          [("variable_name", .required .string "Name of the environment variable.")] []),
        ("kubernetes_secret", .optional, .mk (.plain "Credentials in a Kubernetes secret.")
          [("secret_name", .required .string "Name of the secret."),
            ("secret_key", .required .string "Key of the credentials in the secret.")] []),
        ("aws_secrets_manager", .optional, .mk (.plain "Credentials in AWS Secrets Manager.")
          [("secret_arn", .required .string "ARN of the secret.")] []),
        ("hashicorp_vault", .optional, .mk (.plain "Credentials in HashiCorp Vault.")
          [("path", .required .string "Path of the secret."),
            ("is_dynamic_user_account", .optional .bool
              "Whether the account is generated by Vault.")] [])])]

def validate (s : State) : List Diagnostic :=
  match s.authScheme with
  | .known a => Validation.exactlyOneOf (.of "auth_scheme")
      [("environment_variable", Validation.presence a.environmentVariable),
        ("kubernetes_secret", Validation.presence a.kubernetesSecret),
        ("aws_secrets_manager", Validation.presence a.awsSecret),
        ("hashicorp_vault", Validation.presence a.vault)]
  | _ => []

end ControlPlane.UserAccount
