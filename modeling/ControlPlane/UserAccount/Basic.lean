import ControlPlane.Json.Record

/-! Accounts of a repository, and where their credentials are stored. -/
namespace ControlPlane

namespace UserAccount

structure EnvironmentVariable where
  variableName : String
  deriving DecidableEq, Repr

structure KubernetesSecret where
  secretName : String
  secretKey : String
  deriving DecidableEq, Repr

structure AwsSecret where
  secretArn : String
  deriving DecidableEq, Repr

structure Vault where
  path : String
  isDynamic : Bool
  deriving DecidableEq, Repr

/-- The places that credentials can be stored in. An account uses one of them. -/
structure AuthScheme where
  environmentVariable : Option EnvironmentVariable
  kubernetesSecret : Option KubernetesSecret
  awsSecret : Option AwsSecret
  vault : Option Vault
  deriving DecidableEq, Repr

end UserAccount

structure UserAccount where
  name : String
  authDatabaseName : String
  authScheme : UserAccount.AuthScheme
  deriving DecidableEq, Repr

namespace UserAccount

namespace EnvironmentVariable

def toJson (e : EnvironmentVariable) : Json := .obj [("variableName", .str e.variableName)]

def ofJson? (j : Json) : Option EnvironmentVariable := do
  return { variableName := ← Json.only? "variableName" Json.text? j }

end EnvironmentVariable

namespace KubernetesSecret

def toJson (k : KubernetesSecret) : Json :=
  .obj [("secretName", .str k.secretName), ("secretKey", .str k.secretKey)]

def ofJson? (j : Json) : Option KubernetesSecret := do
  let given ← j.fields? ["secretName", "secretKey"]
  return {
    secretName := ← Json.field? given "secretName" Json.text?
    secretKey := ← Json.field? given "secretKey" Json.text? }

end KubernetesSecret

namespace AwsSecret

def toJson (a : AwsSecret) : Json := .obj [("secretArn", .str a.secretArn)]

def ofJson? (j : Json) : Option AwsSecret := do
  return { secretArn := ← Json.only? "secretArn" Json.text? j }

end AwsSecret

namespace Vault

def toJson (v : Vault) : Json :=
  .obj [("path", .str v.path), ("isDynamicUserAccount", .bool v.isDynamic)]

def ofJson? (j : Json) : Option Vault := do
  let given ← j.fields? ["path", "isDynamicUserAccount"]
  return {
    path := ← Json.field? given "path" Json.text?
    isDynamic := ← Json.fieldD? given "isDynamicUserAccount" Json.bool? false }

end Vault

namespace AuthScheme

def toJson (a : AuthScheme) : Json :=
  .obj (Json.optionMember "environmentVariable" EnvironmentVariable.toJson a.environmentVariable ++
    Json.optionMember "kubernetesSecret" KubernetesSecret.toJson a.kubernetesSecret ++
    Json.optionMember "awsSecretsManager" AwsSecret.toJson a.awsSecret ++
    Json.optionMember "hashicorpVault" Vault.toJson a.vault)

def ofJson? (j : Json) : Option AuthScheme := do
  let given ← j.fields?
    ["environmentVariable", "kubernetesSecret", "awsSecretsManager", "hashicorpVault"]
  return {
    environmentVariable :=
      ← Json.fieldD? given "environmentVariable" (Json.option? EnvironmentVariable.ofJson?) none
    kubernetesSecret :=
      ← Json.fieldD? given "kubernetesSecret" (Json.option? KubernetesSecret.ofJson?) none
    awsSecret := ← Json.fieldD? given "awsSecretsManager" (Json.option? AwsSecret.ofJson?) none
    vault := ← Json.fieldD? given "hashicorpVault" (Json.option? Vault.ofJson?) none }

end AuthScheme

def toJson (u : UserAccount) : Json :=
  .obj (("name", .str u.name) :: Json.textMember "authDatabaseName" u.authDatabaseName ++
    [("authScheme", u.authScheme.toJson)])

def ofJson? (j : Json) : Option UserAccount := do
  let given ← j.fields? ["name", "authDatabaseName", "authScheme"]
  return {
    name := ← Json.field? given "name" Json.text?
    authDatabaseName := ← Json.fieldD? given "authDatabaseName" Json.text? ""
    authScheme := ← Json.field? given "authScheme" AuthScheme.ofJson? }

end UserAccount
end ControlPlane
