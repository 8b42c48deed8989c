import ControlPlane.Json.Record

/-! How the users of a repository authenticate. -/
namespace ControlPlane

structure AuthSettings where
  allowNativeAuth : Bool
  clientTls : String
  repoTls : String
  authType : String
  deriving DecidableEq, Repr

namespace AuthSettings

def tlsModes : List String := ["enable", "disable", "enabledAndRequired"]

def authTypes : List String := ["ACCESS_TOKEN", "AWS_IAM"]

def toJson (a : AuthSettings) : Json :=
  .obj [("allowNativeAuth", .bool a.allowNativeAuth), ("clientTLS", .str a.clientTls),
    ("repoTLS", .str a.repoTls), ("authType", .str a.authType)]

def ofJson? (j : Json) : Option AuthSettings := do
  let given ← j.fields? ["allowNativeAuth", "clientTLS", "repoTLS", "authType"]
  return {
    allowNativeAuth := ← Json.fieldD? given "allowNativeAuth" Json.bool? false
    clientTls := ← Json.field? given "clientTLS" Json.text?
    repoTls := ← Json.field? given "repoTLS" Json.text?
    authType := ← Json.field? given "authType" Json.text? }

end AuthSettings
end ControlPlane
