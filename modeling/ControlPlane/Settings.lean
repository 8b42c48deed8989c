import ControlPlane.Client
import ControlPlane.Diagnostic

/-!
The settings of the provider. A setting that its block leaves null is taken from the environment.
-/
namespace ControlPlane

/-- The variables that are set. -/
abbrev Environment := String → Option String

/-- The settings as they are written in the provider block. -/
structure ProviderBlock where
  clientId : Field String
  clientSecret : Field String
  controlPlane : Field String
  tlsSkipVerify : Field Bool
  deriving DecidableEq, Repr

/-- The settings that a client is made of. -/
structure Settings where
  clientId : String
  clientSecret : String
  controlPlane : String
  tlsSkipVerify : Bool
  deriving DecidableEq, Repr

namespace Settings

def stripScheme (cs : List Char) : List Char :=
  if "https://".toList.isPrefixOf cs then cs.drop "https://".length
  else if "http://".toList.isPrefixOf cs then cs.drop "http://".length
  else cs

/-- The bare address: without blanks around it, then without a scheme, then without last slashes. -/
def normalizeAddress (address : String) : String :=
  String.ofList
    (Text.dropEndWhile (· = '/') (stripScheme (Text.trimWhile Text.isBlank address.toList)))

def client (s : Settings) : Client :=
  .of ("https://" ++ s.controlPlane) s.clientId s.clientSecret

/-- The settings for people to read. The secret is left out. -/
def describe (s : Settings) : String :=
  "ClientConfig \x7b client_id: " ++ Text.Quoted.quote s.clientId ++
    ", client_secret: \"<redacted>\", control_plane: " ++ Text.Quoted.quote s.controlPlane ++
    ", tls_skip_verify: " ++ (if s.tlsSkipVerify then "true" else "false") ++ " \x7d"

end Settings

namespace ProviderBlock

def get (b : ProviderBlock) : Setting → Field String
  | .clientId => b.clientId
  | .clientSecret => b.clientSecret
  | .controlPlane => b.controlPlane

def required : List Setting := [.clientId, .clientSecret, .controlPlane]

/-- A setting is missing when it is null and its variable is not set, or empty. -/
def isMissing (b : ProviderBlock) (env : Environment) (s : Setting) : Bool :=
  (b.get s).isNull && ((env s.envName).filter (· ≠ "")).isNone

def missingDiagnostic (s : Setting) : Diagnostic where
  summary := s!"Missing `{s.name}`"
  detail :=
    s!"`{s.name}` must be set in the provider block or with the `{s.envName}` environment variable."
  path := .of s.name

def validate (b : ProviderBlock) (env : Environment) : List Diagnostic :=
  (required.filter (b.isMissing env)).map missingDiagnostic

/-- The block goes before the environment, and neither may give an empty text. -/
def pick (b : ProviderBlock) (env : Environment) (s : Setting) : Except Failure String :=
  match ((b.get s).known? <|> env s.envName).filter (· ≠ "") with
  | some value => .ok value
  | none => .error (.config (.missing s))

def resolve (b : ProviderBlock) (env : Environment) : Except Failure Settings := do
  let clientId ← b.pick env .clientId
  let clientSecret ← b.pick env .clientSecret
  let controlPlane ← b.pick env .controlPlane
  return {
    clientId, clientSecret
    controlPlane := Settings.normalizeAddress controlPlane
    tlsSkipVerify := b.tlsSkipVerify.getD false }

end ProviderBlock
end ControlPlane
