import ControlPlane.Failure
import ControlPlane.Http.Exchange
import ControlPlane.Json.Parser
import ControlPlane.Json.Record
import ControlPlane.Text.Quoted
import ControlPlane.Url.Target

/-!
Authenticated calls on a control plane. Each call carries a bearer token, which is obtained for
client credentials and kept for as long as it is fresh.
-/
namespace ControlPlane

/-- Where tokens are obtained, and for which account. -/
structure TokenSource where
  url : String
  clientId : String
  clientSecret : String
  deriving DecidableEq, Repr

namespace TokenSource

def path : String := "/v1/users/oidc/token"

/-- What is sent to obtain a token. -/
def credentials (t : TokenSource) : List (String × String) :=
  [("grant_type", "client_credentials"), ("client_id", t.clientId),
    ("client_secret", t.clientSecret)]

/-- The source for people to read. The secret is left out. -/
def describe (t : TokenSource) : String :=
  "TokenSource \x7b token_url: " ++ Text.Quoted.quote t.url ++ ", client_id: " ++
    Text.Quoted.quote t.clientId ++ ", .. \x7d"

end TokenSource

/-- The address that calls are made to, and the tokens they carry. -/
structure Client where
  baseUrl : String
  tokens : TokenSource
  deriving DecidableEq, Repr

namespace Client

/-- An address has no slash at its end, since every path starts with one. -/
def of (baseUrl clientId clientSecret : String) : Client :=
  let baseUrl := String.ofList (Text.dropEndWhile (· = '/') baseUrl.toList)
  ⟨baseUrl, baseUrl ++ TokenSource.path, clientId, clientSecret⟩

def url (c : Client) (path : String) : String := c.baseUrl ++ path

end Client

structure Token where
  secret : String
  /-- The seconds for which the token is valid, without limit if there are none. -/
  lifetime : Option Nat
  deriving DecidableEq, Repr

namespace Token

/-- A token that is about to expire is not used again. -/
def margin : Nat := 10

def isFresh (t : Token) : Bool := t.lifetime.all (margin < ·)

/-- Only these tokens can be carried in a header. -/
def isSendable (t : Token) : Bool :=
  t.secret.toList.all fun c => c = '\t' || (0x20 ≤ c.toNat && c.toNat ≠ 0x7F)

/-- The reply of the token endpoint: a token and, if given, its type. -/
def ofJson? (j : Json) : Option (Token × Option String) := do
  let given ← j.fields? ["access_token", "token_type", "expires_in"]
  let secret ← Json.field? given "access_token" Json.text?
  let type ← Json.fieldD? given "token_type" (Json.option? Json.text?) none
  let lifetime ← Json.fieldD? given "expires_in" (Json.option? Json.seconds?) none
  return (⟨secret, lifetime⟩, type)

def isBearer (type : String) : Bool := type.map Char.toLower = "bearer"

end Token

/-- What happened so far between a client and its control plane. No time passes in a session. -/
structure Session where
  /-- The requests that were received, the oldest first. -/
  log : List Http.Request := []
  /-- The token obtained last. -/
  token : Option Token := none

/-- A call on the control plane. -/
abbrev Call (α : Type) := EStateM Failure Session α

/-- A client and the control plane that it talks to. -/
structure Connection where
  client : Client
  server : Http.Server

namespace Connection

/-- Sends a request, if it can be sent, and awaits the reply. -/
def exchange (k : Connection) (method : Http.Method) (url : String)
    (params : List (String × String)) (authorization : Option String) (payload : Http.Payload)
    (s : Session) : Http.Reply × Session :=
  match Url.target? url params with
  | none => (.unreachable, s)
  | some target =>
    let request := ⟨method, target, authorization, payload⟩
    match k.server s.log request with
    | .unreachable => (.unreachable, s)
    | reply => (reply, { s with log := s.log ++ [request] })

/-- The token in a reply of the token endpoint. -/
def tokenOf (k : Connection) : Http.Reply → Except AuthFault Token
  | .unreachable | .dropped => .error (.request k.client.tokens.url)
  | .truncated status => .error (if status.isSuccess then .response else .status status "")
  | .complete status body =>
    if status.isSuccess then
      match (Json.parse? body).bind Token.ofJson? with
      | none => .error .response
      | some (token, none) => .ok token
      | some (token, some type) =>
        if Token.isBearer type then .ok token else .error (.tokenType type)
    else .error (.status status (Text.lossy body))

def fetchToken (k : Connection) : Call Token := fun s =>
  let form := String.ofList (Text.Form.encode k.client.tokens.credentials)
  match k.exchange .post k.client.tokens.url [] none (.form form) s with
  | (reply, s) =>
    match k.tokenOf reply with
    | .ok token => .ok token { s with token := some token }
    | .error fault => .error (.auth fault) s

/-- The token kept from an earlier call while it is fresh, else a new one. -/
def token (k : Connection) : Call Token := fun s =>
  match s.token.filter Token.isFresh with
  | some token => .ok token s
  | none => k.fetchToken s

/-- The body of a reply that succeeds. -/
def bodyOf (method : Http.Method) (url : String) : Http.Reply → Except Failure (List UInt8)
  | .complete status body =>
    if status.isSuccess then .ok body else .error (.http method url status (Text.lossy body))
  | _ => .error (.transport url)

/-- Sends one authenticated request. -/
def send (k : Connection) (method : Http.Method) (url : String)
    (params : List (String × String)) (payload : Http.Payload) : Call (List UInt8) := fun s =>
  match k.token s with
  | .error failure s => .error failure s
  | .ok token s =>
    if token.isSendable then
      match k.exchange method url params (some s!"Bearer {token.secret}") payload s with
      | (reply, s) =>
        match bodyOf method url reply with
        | .ok body => .ok body s
        | .error failure => .error failure s
    else .error (.transport url) s

/-- Gets an address and reads the JSON that it answers with. -/
def getJson {α : Type} (k : Connection) (url : String) (params : List (String × String))
    (read : Json → Option α) : Call α := fun s =>
  match k.send .get url params .none s with
  | .error failure s => .error failure s
  | .ok body s =>
    match (Json.parse? body).bind read with
    | some a => .ok a s
    | none => .error (.decode url) s

end Connection
end ControlPlane
