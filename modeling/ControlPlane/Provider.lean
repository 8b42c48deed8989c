import ControlPlane.Catalog
import ControlPlane.Settings

/-! The provider: settings that lead to a client, and all that is managed with it. -/
namespace ControlPlane

structure Provider where
  /-- There is no client before the provider is configured. -/
  client : Option Client := none

namespace Provider

def schema : Schema := .of
  (.markdown "The Cyral provider manages the objects of a Cyral control plane.")
  [("client_id", .optional .string
      ("Client id used to authenticate against the control plane. Can be set with `" ++
        Setting.clientId.envName ++ "`.")),
    ("client_secret", .sensitive (.optional .string
      ("Client secret used to authenticate against the control plane. Can be set with `" ++
        Setting.clientSecret.envName ++ "`."))),
    ("control_plane", .optional .string
      ("Control plane host and port, e.g. `tenant.app.cyral.com:443`. Can be set with `" ++
        Setting.controlPlane.envName ++ "`.")),
    ("tls_skip_verify", .optional .bool
      "Accept any certificate presented by the control plane. Defaults to `false`.")]
  []

/-- Installs a client. A provider that cannot be configured keeps the client it has. -/
def configure (p : Provider) (env : Environment) (block : ProviderBlock) :
    Provider × List Diagnostic :=
  match block.resolve env with
  | .ok settings => ({ client := some settings.client }, [])
  | .error failure =>
    (p, [{ summary := "Unable to configure the Cyral provider", detail := failure.chain }])

def resources : List String := ResourceKind.all.map (·.name)

def dataSources : List String := DataSourceKind.all.map (·.name)

def resourceSchema? (name : String) : Option Schema :=
  (ResourceKind.ofName? name).map (·.resource.schema)

def dataSourceSchema? (name : String) : Option Schema :=
  (DataSourceKind.ofName? name).map (·.source.schema)

end Provider

open Exchange (toValue)

instance : Exchange ProviderBlock where
  toValue b := .object [("client_id", toValue b.clientId),
    ("client_secret", toValue b.clientSecret), ("control_plane", toValue b.controlPlane),
    ("tls_skip_verify", toValue b.tlsSkipVerify)]
  ofValue? v := do
    return {
      clientId := ← v.attribute? "client_id"
      clientSecret := ← v.attribute? "client_secret"
      controlPlane := ← v.attribute? "control_plane"
      tlsSkipVerify := ← v.attribute? "tls_skip_verify" }

end ControlPlane
