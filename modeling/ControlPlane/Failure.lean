import ControlPlane.Field
import ControlPlane.Http.Method
import ControlPlane.Http.Status

/-! Why a call on the control plane fails, and how that is told. -/
namespace ControlPlane

/-- The settings that a client cannot do without. -/
inductive Setting where
  | clientId
  | clientSecret
  | controlPlane
  deriving DecidableEq, Repr

namespace Setting

def name : Setting → String
  | .clientId => "client_id"
  | .clientSecret => "client_secret"
  | .controlPlane => "control_plane"

/-- The environment variable that stands in for a null setting. -/
def envName : Setting → String
  | .clientId => "CYRAL_TF_CLIENT_ID"
  | .clientSecret => "CYRAL_TF_CLIENT_SECRET"
  | .controlPlane => "CYRAL_TF_CONTROL_PLANE"

end Setting

/-- Why no access token could be obtained. -/
inductive AuthFault where
  | request (url : String)
  | status (status : Http.Status) (body : String)
  | response
  | tokenType (name : String)
  | other (text : String)
  deriving DecidableEq, Repr

namespace AuthFault

/-- The texts of a failed connection and of a reply that is no token stand for those of the
libraries that find them out. -/
def message : AuthFault → String
  | .request url => s!"request to {url} failed: the connection failed"
  | .status code body => s!"token endpoint returned {code.describe}: {body}"
  | .response => "invalid token response: it is no token"
  | .tokenType name => s!"unsupported token type `{name}`"
  | .other text => text

end AuthFault

inductive SettingFault where
  | missing (setting : Setting)
  | other (text : String)
  deriving DecidableEq, Repr

namespace SettingFault

def message : SettingFault → String
  | .missing s =>
    s!"`{s.name}` must be set in the provider block or with the `{s.envName}` environment variable"
  | .other text => text

end SettingFault

inductive Failure where
  /-- The control plane answered with a status that is no success. -/
  | http (method : Http.Method) (url : String) (status : Http.Status) (body : String)
  /-- The request could not be sent, or its reply not be received. -/
  | transport (url : String)
  | auth (fault : AuthFault)
  /-- The reply is not what was asked for. -/
  | decode (url : String)
  | invalidId (id : String) (expected : Nat) (separator : Char)
  /-- A request needs an attribute that is null or not known yet. -/
  | missingAttribute (name : String)
  | notConfigured
  | config (fault : SettingFault)
  | noMatch (kind name : String)
  /-- The pages of a listing lead on for ever, so that it is never told. -/
  | unboundedListing (url : String)
  deriving DecidableEq, Repr

namespace Failure

def message : Failure → String
  | .http method url status body => s!"{method.name} {url} returned {status.describe}: {body}"
  | .transport url => s!"request to {url} failed"
  | .auth fault => s!"unable to obtain an access token: {fault.message}"
  | .decode url => s!"unable to decode the response of {url}"
  | .invalidId id expected separator =>
    s!"unexpected ID format `{id}`: expected {expected} parts separated by `{separator}`"
  | .missingAttribute name => s!"attribute `{name}` has no known value"
  | .notConfigured => "the provider has not been configured"
  | .config fault => fault.message
  | .noMatch kind name => s!"no {kind} matches `{name}`"
  | .unboundedListing url => s!"the listing of {url} does not end"

/-- The failure below this one. The two texts stand for those of the libraries that send requests
and read JSON. -/
def cause? : Failure → Option String
  | .transport _ => some "the connection failed"
  | .decode _ => some "the body does not have the expected shape"
  | _ => none

/-- The message, followed by the cause on a line of its own. -/
def chain (f : Failure) : String :=
  match f.cause? with
  | none => f.message
  | some cause => s!"{f.message}\ncaused by: {cause}"

/-- The status of the reply that the failure comes from. -/
def status? : Failure → Option Http.Status
  | .http _ _ status _ => some status
  | _ => none

def isNotFound (f : Failure) : Bool := f.status? = some .notFound

end Failure

/-- The value of an attribute that a request cannot do without. -/
def Field.require {α : Type} (x : Field α) (name : String) : Except Failure α :=
  match x with
  | .known a => .ok a
  | _ => .error (.missingAttribute name)

end ControlPlane
