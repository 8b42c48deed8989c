import ControlPlane.AuthSettings.Resource
import ControlPlane.Binding.BoundPorts
import ControlPlane.Binding.Resource
import ControlPlane.DataLabel.Lookup
import ControlPlane.DataLabel.Resource
import ControlPlane.Integration.Datadog
import ControlPlane.Integration.Logging.Resource
import ControlPlane.Integration.Webhook
import ControlPlane.Listener.Lookup
import ControlPlane.Listener.Resource
import ControlPlane.Policy
import ControlPlane.Repository.Lookup
import ControlPlane.Repository.Resource
import ControlPlane.ServiceAccount
import ControlPlane.Sidecar.Credentials
import ControlPlane.Sidecar.Lookup
import ControlPlane.Sidecar.Resource
import ControlPlane.System
import ControlPlane.UserAccount.Resource

/-! All that is managed and looked up, by name. -/
namespace ControlPlane

inductive ResourceKind where
  | dataLabel
  | datadog
  | logging
  | microsoftTeams
  | slack
  | policy
  | repository
  | binding
  | authSettings
  | userAccount
  | serviceAccount
  | sidecar
  | sidecarCredentials
  | listener
  deriving DecidableEq, Repr

namespace ResourceKind

/-- The kinds in the order of their names. -/
def all : List ResourceKind :=
  [.dataLabel, .datadog, .logging, .microsoftTeams, .slack, .policy, .repository, .binding,
    .authSettings, .userAccount, .serviceAccount, .sidecar, .sidecarCredentials, .listener]

abbrev State : ResourceKind → Type
  | .dataLabel => DataLabel.State
  | .datadog => Datadog.State
  | .logging => Logging.State
  | .microsoftTeams => Webhook.State
  | .slack => Webhook.State
  | .policy => Policy.State
  | .repository => Repository.State
  | .binding => Binding.State
  | .authSettings => AuthSettings.State
  | .userAccount => UserAccount.State
  | .serviceAccount => ServiceAccount.State
  | .sidecar => Sidecar.State
  | .sidecarCredentials => SidecarCredentials.State
  | .listener => Listener.State

def resource : (kind : ResourceKind) → Resource kind.State
  | .dataLabel => DataLabel.resource
  | .datadog => Datadog.resource
  | .logging => Logging.resource
  | .microsoftTeams => Webhook.resource .microsoftTeams
  | .slack => Webhook.resource .slack
  | .policy => Policy.resource
  | .repository => Repository.resource
  | .binding => Binding.resource
  | .authSettings => AuthSettings.resource
  | .userAccount => UserAccount.resource
  | .serviceAccount => ServiceAccount.resource
  | .sidecar => Sidecar.resource
  | .sidecarCredentials => SidecarCredentials.resource
  | .listener => Listener.resource

instance instDecidableEqState : (kind : ResourceKind) → DecidableEq kind.State
  | .dataLabel => inferInstanceAs (DecidableEq DataLabel.State)
  | .datadog => inferInstanceAs (DecidableEq Datadog.State)
  | .logging => inferInstanceAs (DecidableEq Logging.State)
  | .microsoftTeams => inferInstanceAs (DecidableEq Webhook.State)
  | .slack => inferInstanceAs (DecidableEq Webhook.State)
  | .policy => inferInstanceAs (DecidableEq Policy.State)
  | .repository => inferInstanceAs (DecidableEq Repository.State)
  | .binding => inferInstanceAs (DecidableEq Binding.State)
  | .authSettings => inferInstanceAs (DecidableEq AuthSettings.State)
  | .userAccount => inferInstanceAs (DecidableEq UserAccount.State)
  | .serviceAccount => inferInstanceAs (DecidableEq ServiceAccount.State)
  | .sidecar => inferInstanceAs (DecidableEq Sidecar.State)
  | .sidecarCredentials => inferInstanceAs (DecidableEq SidecarCredentials.State)
  | .listener => inferInstanceAs (DecidableEq Listener.State)

instance instExchangeState : (kind : ResourceKind) → Exchange kind.State
  | .dataLabel => inferInstanceAs (Exchange DataLabel.State)
  | .datadog => inferInstanceAs (Exchange Datadog.State)
  | .logging => inferInstanceAs (Exchange Logging.State)
  | .microsoftTeams => inferInstanceAs (Exchange Webhook.State)
  | .slack => inferInstanceAs (Exchange Webhook.State)
  | .policy => inferInstanceAs (Exchange Policy.State)
  | .repository => inferInstanceAs (Exchange Repository.State)
  | .binding => inferInstanceAs (Exchange Binding.State)
  | .authSettings => inferInstanceAs (Exchange AuthSettings.State)
  | .userAccount => inferInstanceAs (Exchange UserAccount.State)
  | .serviceAccount => inferInstanceAs (Exchange ServiceAccount.State)
  | .sidecar => inferInstanceAs (Exchange Sidecar.State)
  | .sidecarCredentials => inferInstanceAs (Exchange SidecarCredentials.State)
  | .listener => inferInstanceAs (Exchange Listener.State)

def name (kind : ResourceKind) : String := kind.resource.name

def ofName? (name : String) : Option ResourceKind := all.find? (·.name = name)

end ResourceKind

inductive DataSourceKind where
  | dataLabel
  | repository
  | samlCertificate
  | boundPorts
  | sidecarId
  | listener
  | systemInfo
  deriving DecidableEq, Repr

namespace DataSourceKind

/-- The kinds in the order of their names. -/
def all : List DataSourceKind :=
  [.dataLabel, .repository, .samlCertificate, .boundPorts, .sidecarId, .listener, .systemInfo]

abbrev State : DataSourceKind → Type
  | .dataLabel => DataLabel.Query
  | .repository => Repository.Query
  | .samlCertificate => System.SamlCertificate
  | .boundPorts => Binding.PortsQuery
  | .sidecarId => Sidecar.IdQuery
  | .listener => Listener.Query
  | .systemInfo => System.Info

def source : (kind : DataSourceKind) → DataSource kind.State
  | .dataLabel => DataLabel.lookup
  | .repository => Repository.lookup
  | .samlCertificate => System.samlLookup
  | .boundPorts => Binding.portsLookup
  | .sidecarId => Sidecar.idLookup
  | .listener => Listener.lookup
  | .systemInfo => System.infoLookup

instance instExchangeState : (kind : DataSourceKind) → Exchange kind.State
  | .dataLabel => inferInstanceAs (Exchange DataLabel.Query)
  | .repository => inferInstanceAs (Exchange Repository.Query)
  | .samlCertificate => inferInstanceAs (Exchange System.SamlCertificate)
  | .boundPorts => inferInstanceAs (Exchange Binding.PortsQuery)
  | .sidecarId => inferInstanceAs (Exchange Sidecar.IdQuery)
  | .listener => inferInstanceAs (Exchange Listener.Query)
  | .systemInfo => inferInstanceAs (Exchange System.Info)

def name (kind : DataSourceKind) : String := kind.source.name

def ofName? (name : String) : Option DataSourceKind := all.find? (·.name = name)

end DataSourceKind
end ControlPlane
