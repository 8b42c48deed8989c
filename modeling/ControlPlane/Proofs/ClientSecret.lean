import ControlPlane.Proofs.Alike.Operation
import ControlPlane.Settings

/-!
The secret of a client reaches the requests for its tokens and nothing else. Whatever is done with a
client, another secret would have led to the same answers.
-/
namespace ControlPlane

open Http (Likeness)

namespace Client

/-- What can be done with a client. -/
inductive Action where
  | validate (kind : ResourceKind) (config : Field kind.State)
  | planCreate (kind : ResourceKind) (proposed : Field kind.State)
  | planUpdate (kind : ResourceKind) (prior proposed : Field kind.State) (kept : Field Unit)
  | planDestroy (kind : ResourceKind) (kept : Field Unit)
  | create (kind : ResourceKind) (planned : Managed kind.State)
  | read (kind : ResourceKind) (object : Managed kind.State)
  | update (kind : ResourceKind) (planned : Managed kind.State)
  | destroy (kind : ResourceKind) (prior : Field kind.State)
  | adopt (kind : ResourceKind) (id : String)
  | check (kind : DataSourceKind) (config : Field kind.State)
  | lookUp (kind : DataSourceKind) (config : Field kind.State)
  | url (path : String)
  | send (method : Http.Method) (address : String) (params : List (String × String))
    (payload : Http.Payload)
  | getJson (address : String) (params : List (String × String)) (decode? : Json → Option Json)
  | list (listing : Listing Json)

namespace Action

/-- What comes back: diagnostics, states and triggers, or failures. -/
def Answer : Action → Type
  | validate _ _ | check _ _ => List Diagnostic
  | planCreate kind _ => Managed kind.State
  | planUpdate kind _ _ _ => Managed kind.State × List Path
  | planDestroy _ _ => Field Unit
  | create kind _ | read kind _ | update kind _ | adopt kind _ =>
    Except Diagnostic (Managed kind.State)
  | destroy _ _ => Except Diagnostic Unit
  | lookUp kind _ => Except Diagnostic (Field kind.State)
  | url _ => String
  | send _ _ _ _ => Except Failure (List UInt8)
  | getJson _ _ _ => Except Failure Json
  | list _ => Except Failure (List Json)

/-- The value or the failure of a call, and the session that it leaves. -/
def settle {ε α : Type} : EStateM.Result ε Session α → Except ε α × Session
  | .ok a s => (.ok a, s)
  | .error e s => (.error e, s)

def perform (k : Connection) (s : Session) : (a : Action) → a.Answer × Session
  | validate kind config => (kind.resource.validateConfig config, s)
  | planCreate kind proposed => (kind.resource.planCreate proposed, s)
  | planUpdate kind prior proposed kept => (kind.resource.planUpdate prior proposed kept, s)
  | planDestroy kind kept => (kind.resource.planDestroy kept, s)
  | create kind planned => settle (kind.resource.createObject (some k) planned s)
  | read kind object => settle (kind.resource.readObject (some k) object s)
  | update kind planned => settle (kind.resource.updateObject (some k) planned s)
  | destroy kind prior => settle (kind.resource.destroyObject (some k) prior s)
  | adopt kind id => (kind.resource.importObject id, s)
  | check kind config => (kind.source.validateConfig config, s)
  | lookUp kind config => settle (kind.source.readConfig (some k) config s)
  | url path => (k.client.url path, s)
  | send method address params payload => settle (k.send method address params payload s)
  | getJson address params decode? => settle (k.getJson address params decode? s)
  | list listing => settle (listing.items k s)

end Action

/-- Actions and their answers, the last ones first. -/
abbrev History := List ((a : Action) × a.Answer)

/-- Actions in a row, each of which can depend on the answers to those before it. -/
abbrev Program := List (History → Action)

def Program.run (k : Connection) : Program → History → Session → History × Session
  | [], told, s => (told, s)
  | next :: rest, told, s =>
    let (answer, s) := (next told).perform k s
    run k rest (⟨next told, answer⟩ :: told) s

end Client

namespace Connection

/-- Requests that are the same, or that ask for the tokens of two connections at one endpoint. -/
def tokensAside (k k' : Connection) : Likeness where
  rel r r' := r' = r ∨ ∃ target, Url.target? k.client.tokens.url [] = some target ∧
    r = k.tokenRequest target ∧ r' = k'.tokenRequest target
  refl _ := .inl rfl
  bare_eq := by
    rintro r r' (rfl | ⟨target, -, rfl, rfl⟩)
    · rfl
    · rfl

end Connection

namespace Client
variable {L : Likeness} {k k' : Connection}

theorem Action.settle_alike {ε α : Type} {r r' : EStateM.Result ε Session α}
    (h : EndAlike L Eq r r') :
    (settle r').1 = (settle r).1 ∧ (settle r).2.Alike L (settle r').2 := by
  cases h with
  | ok hv hs =>
    obtain rfl := hv
    exact ⟨rfl, hs⟩
  | error e hs => exact ⟨rfl, hs⟩

theorem Action.settle_managed_alike {S ε : Type} {r r' : EStateM.Result ε Session (Managed S)}
    (h : EndAlike L (Managed.Alike Eq) r r') :
    (settle r').1 = (settle r).1 ∧ (settle r).2.Alike L (settle r').2 := by
  cases h with
  | ok hv hs =>
    obtain rfl := Managed.alike_eq_iff.mp hv
    exact ⟨rfl, hs⟩
  | error e hs => exact ⟨rfl, hs⟩

theorem Action.perform_alike (hk : k.Alike L k') {s s' : Session} (hs : s.Alike L s')
    (a : Action) :
    (a.perform k' s').1 = (a.perform k s).1 ∧ (a.perform k s).2.Alike L (a.perform k' s').2 := by
  have hsame {S : Type} (m : Managed S) : m.Alike Eq m := Managed.alike_eq_iff.mpr rfl
  cases a with
  | validate | planCreate | planUpdate | planDestroy | adopt | check => exact ⟨rfl, hs⟩
  | url path => exact ⟨hk.url path, hs⟩
  | create kind planned =>
    exact settle_managed_alike (Resource.createObject_alike (Operation.respects_eq _ L) hk
      (hsame planned) s s' hs)
  | read kind object =>
    exact settle_managed_alike (Resource.readObject_alike (Operation.respects_eq _ L) hk
      (hsame object) s s' hs)
  | update kind planned =>
    exact settle_managed_alike (Resource.updateObject_alike
      (fun op _ => Operation.respects_eq op L) hk (hsame planned) s s' hs)
  | destroy kind prior =>
    exact settle_alike (Resource.destroyObject_alike (Operation.respects_eq _ L) hk
      (Field.alike_eq_iff.mpr rfl) s s' hs)
  | lookUp kind config =>
    exact settle_alike (DataSource.readConfig_alike (kind.lookUp_alike hk) config s s' hs)
  | send method address params payload =>
    exact settle_alike (hk.send method address params (.refl L payload) s s' hs)
  | getJson address params decode? =>
    exact settle_alike (hk.getJson address params decode? s s' hs)
  | list listing => exact settle_alike (hk.items listing s s' hs)

theorem Program.run_alike (hk : k.Alike L k') (program : Program) (told : History)
    {s s' : Session} (hs : s.Alike L s') :
    (run k' program told s').1 = (run k program told s).1 ∧
      (run k program told s).2.Alike L (run k' program told s').2 := by
  induction program generalizing told s s' with
  | nil => exact ⟨rfl, hs⟩
  | cons next rest ih =>
    obtain ⟨hanswer, hsession⟩ := (next told).perform_alike hk hs
    simp only [run]
    rw [hanswer]
    exact ih _ hsession

/--
Whatever is done with a client, its secret makes no difference to what is told and to what is sent
but for the requests for tokens.
-/
theorem secret_kept {server : Http.Server} (hserver : server.IgnoresPayloads)
    (address id secret secret' : String) (program : Program) (session : Session) :
    let k : Connection := ⟨.of address id secret, server⟩
    let k' : Connection := ⟨.of address id secret', server⟩
    (program.run k' [] session).1 = (program.run k [] session).1 ∧
      (program.run k [] session).2.Alike (k.tokensAside k') (program.run k' [] session).2 ∧
      k'.client.tokens.describe = k.client.tokens.describe ∧
      ∀ settings : Settings, { settings with clientSecret := secret' }.describe =
        { settings with clientSecret := secret }.describe := by
  intro k k'
  have hk : k.Alike (k.tokensAside k') k' :=
    ⟨rfl, hserver, rfl, rfl, fun target h => .inr ⟨target, h, rfl, rfl⟩⟩
  obtain ⟨htold, hsession⟩ := program.run_alike hk [] (.refl session)
  exact ⟨htold, hsession, rfl, fun _ => rfl⟩

/-- A control plane that takes the requests of a client and never replies. -/
def unanswered (secret : String) : Connection := ⟨.of "http://cp" "a" secret, fun _ _ => .dropped⟩

theorem target_unanswered (secret : String) :
    Url.target? (unanswered secret).client.tokens.url [] = some "/v1/users/oidc/token" := by
  have hurl : (unanswered secret).client.tokens.url = "http://cp/v1/users/oidc/token" := by cbv
  rw [hurl]
  decide +kernel

/-- The secret is sent, and what is told does not give it away. -/
theorem secret_kept_unanswered :
    let program : Program := [fun _ => .lookUp .systemInfo (.known ⟨.null, .null⟩)]
    (program.run (unanswered "s2") [] {}).1 = (program.run (unanswered "s1") [] {}).1 ∧
      (program.run (unanswered "s1") [] {}).2.log =
        [(unanswered "s1").tokenRequest "/v1/users/oidc/token"] ∧
      (program.run (unanswered "s2") [] {}).2.log =
        [(unanswered "s2").tokenRequest "/v1/users/oidc/token"] := by
  intro program
  have hserver : Http.Server.IgnoresPayloads fun _ _ => .dropped := fun _ _ _ _ _ _ => rfl
  have hlog (secret : String) : (program.run (unanswered secret) [] {}).2.log =
      [(unanswered secret).tokenRequest "/v1/users/oidc/token"] := by
    have hfetch : (unanswered secret).fetchToken {} = .error
        (.auth (.request (unanswered secret).client.tokens.url))
        { log := [(unanswered secret).tokenRequest "/v1/users/oidc/token"] } := by
      simp only [Connection.fetchToken, Connection.exchange, target_unanswered]
      rfl
    simp only [program, Program.run, Action.perform, DataSource.readConfig, DataSourceKind.source,
      System.infoLookup, Connection.getJson, Connection.send, Connection.token, Option.filter_none,
      hfetch, Action.settle]
  exact ⟨(secret_kept hserver "http://cp" "a" "s1" "s2" program {}).1, hlog "s1", hlog "s2"⟩

end Client
end ControlPlane
