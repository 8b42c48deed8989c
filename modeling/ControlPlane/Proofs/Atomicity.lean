import ControlPlane.Proofs.Identity.Kinds
import ControlPlane.Proofs.Operation.Ends

/-!
Operations do all or nothing. The requests of all that is managed can only fail to be built for want
of an attribute, and the writers of the replies fail before they write.
-/
namespace ControlPlane

/-- The operations on the objects of a resource. -/
def Resource.operations {S : Type} (r : Resource S) : List (Operation S) := r.create :: r.onObject

/-- What keeps a half-done operation out of a resource: only an attribute can be missing from its
requests, and its writers are clean. -/
structure Resource.Sound {S : Type} (r : Resource S) : Prop where
  needs : ∀ op ∈ r.operations, ∀ s base, NeedsAttributes (op.request s base)
  clean : ∀ op ∈ r.operations, ∀ response ∈ op.response, Response.Clean response

/-- What is shown of a step: its result, if there is one, and the diagnostics told so far. -/
def Step.shown {α : Type} (step : Step α) (session : Session) (told : List Diagnostic) :
    Option α × List Diagnostic × Session :=
  match step session with
  | .ok a session => (some a, told, session)
  | .error d session => (none, told ++ [d], session)

namespace Resource
variable {S α : Type} {r : Resource S} {k? : Option Connection} {op : Operation S} {s : S}
  {session : Session}

/-- A step runs an operation. It gives nothing and tells one diagnostic when the operation fails, or
when there is no connection to run it on, and tells none when the operation ends well. -/
structure Reports (r : Resource S) (k? : Option Connection) (op : Operation S) (s : S)
    (session : Session) (step : Step α) (result : Outcome → S → α) : Prop where
  unconfigured (hk : k? = none) (told : List Diagnostic) :
    step.shown session told = (none, told ++ [r.failed op.kind .notConfigured], session)
  fails {k : Connection} {failure : Failure} (hk : k? = some k)
    (h : (op.execute k s session).outcome = .error failure) (told : List Diagnostic) :
    step.shown session told =
      (none, told ++ [r.failed op.kind failure], (op.execute k s session).session)
  succeeds {k : Connection} {outcome : Outcome} (hk : k? = some k)
    (h : (op.execute k s session).outcome = .ok outcome) (told : List Diagnostic) :
    step.shown session told =
      (some (result outcome (op.execute k s session).state), told,
        (op.execute k s session).session)

theorem Reports.of_run {step : Step α} {result : Outcome → S → α} {next : Outcome × S → Step α}
    (hstep : step session = (r.run k? op s >>= next) session)
    (hnext : ∀ outcome s' session',
      next (outcome, s') session' = .ok (result outcome s') session') :
    r.Reports k? op s session step result := by
  have hbind : step session = EStateM.bind (r.run k? op s) next session := hstep
  constructor
  · rintro rfl told
    rw [Step.shown, hbind]
    rfl
  · rintro k failure rfl h told
    simp only [Step.shown, hbind, EStateM.bind, run_eq_error h]
  · rintro k outcome rfl h told
    simp only [Step.shown, hbind, EStateM.bind, run_eq_ok h, hnext]

theorem createObject_reports (r : Resource S) (k? : Option Connection) (s : S) (kept : Field Unit)
    (session : Session) :
    r.Reports k? r.create s session (r.createObject k? ⟨.known s, kept⟩)
      fun _ s' => ⟨.known s', kept⟩ :=
  .of_run rfl fun _ _ _ => rfl

/-- The state of an object after a read. -/
def found (outcome : Outcome) (s : S) : Field S :=
  match outcome with
  | .applied => .known s
  | .notFound => .null

theorem readObject_reports (r : Resource S) (k? : Option Connection) (s : S) (kept : Field Unit)
    (session : Session) :
    r.Reports k? r.read s session (r.readObject k? ⟨.known s, kept⟩)
      fun outcome s' => ⟨found outcome s', kept⟩ :=
  .of_run rfl fun outcome _ _ => by cases outcome <;> rfl

theorem updateObject_reports (hop : r.update = some op) (k? : Option Connection) (s : S)
    (kept : Field Unit) (session : Session) :
    r.Reports k? op s session (r.updateObject k? ⟨.known s, kept⟩)
      fun _ s' => ⟨.known s', kept⟩ := by
  have hstep : r.updateObject k? ⟨.known s, kept⟩ session =
      (r.run k? op s >>= fun x => pure ⟨.known x.2, kept⟩) session := by
    unfold updateObject
    rw [hop]
  exact .of_run hstep fun _ _ _ => rfl

theorem destroyObject_reports (r : Resource S) (k? : Option Connection) (s : S)
    (session : Session) :
    r.Reports k? r.delete s session (r.destroyObject k? (.known s)) fun _ _ => () :=
  .of_run rfl fun _ _ _ => rfl

theorem Sound.atomic (h : r.Sound) (hop : op ∈ r.operations) (k : Connection) (s : S)
    (session : Session) : op.Atomic k s session :=
  Operation.atomic_of_clean (h.needs op hop s _) (h.clean op hop)

end Resource

/-- Objects are created in a collection with a body, and nothing is read from an update. -/
theorem Resource.Sound.of_parts {S R : Type} {r : Resource S}
    {collectionUrl objectUrl : S → String → Except Failure String} {body : S → Except Failure Json}
    {read? : Json → Option R} {refresh : R → S → S}
    (collectionUrl_needs : ∀ s base, NeedsAttributes (collectionUrl s base))
    (objectUrl_needs : ∀ s base, NeedsAttributes (objectUrl s base))
    (body_needs : ∀ s, NeedsAttributes (body s))
    (create : r.create.url = collectionUrl ∧ r.create.body = some body)
    (clean : ∀ response ∈ r.create.response, Response.Clean response)
    (read : r.read.url = objectUrl ∧ r.read.body = none ∧
      r.read.response = some (.of read? refresh))
    (delete : r.delete.url = objectUrl ∧ r.delete.body = none ∧ r.delete.response = none)
    (update : ∀ op ∈ r.update, op.url = objectUrl ∧ op.body = some body ∧ op.response = none) :
    r.Sound := by
  have hnone (op : Operation S) (h : op.body = none) (s : S) : NeedsAttributes (op.payload s) := by
    simp only [Operation.payload, h]
    exact .ok _
  have hbody (op : Operation S) (h : op.body = some body) (s : S) :
      NeedsAttributes (op.payload s) := by
    simp only [Operation.payload, h]
    exact (body_needs s).map _
  have hrequest (op : Operation S) (hurl : ∀ s base, NeedsAttributes (op.url s base))
      (hpayload : ∀ s, NeedsAttributes (op.payload s)) (s : S) (base : String) :
      NeedsAttributes (op.request s base) :=
    .bind (hurl s base) fun _ => .bind (hpayload s) fun _ => .ok _
  constructor
  · simp only [operations, onObject, List.forall_mem_cons, Option.mem_toList]
    refine ⟨hrequest _ ?_ (hbody _ create.2), hrequest _ ?_ (hnone _ read.2.1),
      hrequest _ ?_ (hnone _ delete.2.1), fun op hop => hrequest _ ?_ (hbody _ (update op hop).2.1)⟩
    · rw [create.1]
      exact collectionUrl_needs
    · rw [read.1]
      exact objectUrl_needs
    · rw [delete.1]
      exact objectUrl_needs
    · rw [(update op hop).1]
      exact objectUrl_needs
  · simp only [operations, onObject, List.forall_mem_cons, Option.mem_toList]
    refine ⟨clean, ?_, ?_, fun op hop => ?_⟩
    · rw [read.2.2]
      intro response hresponse
      obtain rfl := Option.some.inj hresponse
      exact .of _ _
    · simp [delete.2.2]
    · simp [(update op hop).2.2]

namespace Datadog

theorem body_needs (s : State) : NeedsAttributes (body s) :=
  .map (.bind (.require _ _) fun _ => .bind (.require _ _) fun _ => .ok _) _

theorem objectUrl_needs (s : State) (base : String) : NeedsAttributes (objectUrl s base) :=
  .bind (.require _ _) fun _ => .ok _

theorem sound : resource.Sound :=
  .of_parts (fun _ _ => .ok _) objectUrl_needs body_needs ⟨rfl, rfl⟩
    (by rintro _ ⟨⟩; exact .of _ _) ⟨rfl, rfl, rfl⟩ ⟨rfl, rfl, rfl⟩ (by simp [resource])

end Datadog

namespace Webhook

theorem body_needs (s : State) : NeedsAttributes (body s) :=
  .map (.bind (.require _ _) fun _ => .bind (.require _ _) fun _ => .ok _) _

theorem objectUrl_needs (service : Service) (s : State) (base : String) :
    NeedsAttributes (objectUrl service s base) :=
  .bind (.ok _) fun _ => .bind (.require _ _) fun _ => .ok _

theorem sound (service : Service) : (resource service).Sound :=
  .of_parts (fun _ _ => .ok _) (objectUrl_needs service) body_needs ⟨rfl, rfl⟩
    (by rintro _ ⟨⟩; exact .of _ _) ⟨rfl, rfl, rfl⟩ ⟨rfl, rfl, rfl⟩ (by simp [resource])

end Webhook

namespace Logging

theorem CloudWatch.ofState_needs (c : CloudWatchState) : NeedsAttributes (ofState c) :=
  .bind (.require _ _) fun _ => .bind (.require _ _) fun _ => .ok _

theorem DatadogLogs.ofState_needs (d : DatadogState) : NeedsAttributes (ofState d) :=
  .bind (.require _ _) fun _ => .ok _

theorem Splunk.ofState_needs (s : SplunkState) : NeedsAttributes (ofState s) :=
  .bind (.require _ _) fun _ => .bind (.require _ _) fun _ => .bind (.require _ _) fun _ => .ok _

theorem body_needs (s : State) : NeedsAttributes (body s) :=
  .map (.bind (.mapM_option CloudWatch.ofState_needs _) fun _ =>
    .bind (.mapM_option DatadogLogs.ofState_needs _) fun _ =>
    .bind (.mapM_option Splunk.ofState_needs _) fun _ => .bind (.require _ _) fun _ => .ok _) _

theorem objectUrl_needs (s : State) (base : String) : NeedsAttributes (objectUrl s base) :=
  .bind (.require _ _) fun _ => .ok _

theorem sound : resource.Sound :=
  .of_parts (fun _ _ => .ok _) objectUrl_needs body_needs ⟨rfl, rfl⟩
    (by rintro _ ⟨⟩; exact .of _ _) ⟨rfl, rfl, rfl⟩ ⟨rfl, rfl, rfl⟩ (by simp [resource])

end Logging

namespace Policy

theorem body_needs (s : State) : NeedsAttributes (body s) :=
  .map (.bind (.require _ _) fun _ => .ok _) _

theorem objectUrl_needs (s : State) (base : String) : NeedsAttributes (objectUrl s base) :=
  .bind (.require _ _) fun _ => .ok _

theorem sound : resource.Sound :=
  .of_parts (fun _ _ => .ok _) objectUrl_needs body_needs ⟨rfl, rfl⟩
    (by rintro _ ⟨⟩; exact .of _ _) ⟨rfl, rfl, rfl⟩ ⟨rfl, rfl, rfl⟩ (by simp [resource])

end Policy

namespace Repository

theorem MongoSettings.ofState_needs (m : MongoState) : NeedsAttributes (ofState m) :=
  .bind (.require _ _) fun _ => .ok _

theorem body_needs (s : State) : NeedsAttributes (body s) :=
  .map (.bind (.mapM_option MongoSettings.ofState_needs _) fun _ => .bind (.require _ _) fun _ =>
    .bind (.require _ _) fun _ => .ok _) _

theorem objectUrl_needs (s : State) (base : String) : NeedsAttributes (objectUrl s base) :=
  .bind (.require _ _) fun _ => .ok _

theorem sound : resource.Sound :=
  .of_parts (fun _ _ => .ok _) objectUrl_needs body_needs ⟨rfl, rfl⟩
    (by rintro _ ⟨⟩; exact .of _ _) ⟨rfl, rfl, rfl⟩ ⟨rfl, rfl, rfl⟩ (by simp [resource])

end Repository

namespace Sidecar

theorem body_needs (s : State) : NeedsAttributes (body s) :=
  .map (.bind (.require _ _) fun _ => .bind (.require _ _) fun _ => .ok _) _

theorem objectUrl_needs (s : State) (base : String) : NeedsAttributes (objectUrl s base) :=
  .bind (.require _ _) fun _ => .ok _

theorem sound : resource.Sound :=
  .of_parts (fun _ _ => .ok _) objectUrl_needs body_needs ⟨rfl, rfl⟩
    (by rintro _ ⟨⟩; exact .of _ _) ⟨rfl, rfl, rfl⟩ ⟨rfl, rfl, rfl⟩ (by simp [resource])

end Sidecar

namespace ServiceAccount

theorem body_needs (s : State) : NeedsAttributes (body s) :=
  .map (.bind (.require _ _) fun _ => .ok _) _

theorem objectUrl_needs (s : State) (base : String) : NeedsAttributes (objectUrl s base) :=
  .bind (.require _ _) fun _ => .ok _

theorem sound : resource.Sound :=
  .of_parts (fun _ _ => .ok _) objectUrl_needs body_needs ⟨rfl, rfl⟩
    (by rintro _ ⟨⟩; exact .of _ _) ⟨rfl, rfl, rfl⟩ ⟨rfl, rfl, rfl⟩ (by simp [resource])

end ServiceAccount

namespace DataLabel

theorem Rule.ofState_needs (r : RuleState) : NeedsAttributes (ofState r) :=
  .bind (.require _ _) fun _ => .ok _

theorem body_needs (s : State) : NeedsAttributes (body s) :=
  .map (.bind (.mapM_option Rule.ofState_needs _) fun _ => .ok _) _

theorem objectUrl_needs (s : State) (base : String) : NeedsAttributes (objectUrl s base) :=
  .bind (.require _ _) fun _ => .ok _

theorem sound : resource.Sound :=
  .of_parts objectUrl_needs objectUrl_needs body_needs ⟨rfl, rfl⟩ (by simp [resource])
    ⟨rfl, rfl, rfl⟩ ⟨rfl, rfl, rfl⟩ (by simp [resource])

end DataLabel

namespace AuthSettings

theorem body_needs (s : State) : NeedsAttributes (body s) :=
  .map (.bind (.require _ _) fun _ => .bind (.require _ _) fun _ => .bind (.require _ _) fun _ =>
    .ok _) _

theorem objectUrl_needs (s : State) (base : String) : NeedsAttributes (objectUrl s base) :=
  .bind (.require _ _) fun _ => .ok _

theorem sound : resource.Sound :=
  .of_parts objectUrl_needs objectUrl_needs body_needs ⟨rfl, rfl⟩ (by simp [resource])
    ⟨rfl, rfl, rfl⟩ ⟨rfl, rfl, rfl⟩ (by simp [resource])

end AuthSettings

namespace SidecarCredentials

theorem body_needs (s : State) : NeedsAttributes (body s) :=
  .bind (.require _ _) fun _ => .ok _

theorem objectUrl_needs (s : State) (base : String) : NeedsAttributes (objectUrl s base) :=
  .bind (.require _ _) fun _ => .ok _

theorem sound : resource.Sound :=
  .of_parts (fun _ _ => .ok _) objectUrl_needs body_needs ⟨rfl, rfl⟩
    (by rintro _ ⟨⟩; exact .of _ _) ⟨rfl, rfl, rfl⟩ ⟨rfl, rfl, rfl⟩ (by simp [resource])

end SidecarCredentials

namespace Listener

theorem body_needs (s : State) : NeedsAttributes (body s) :=
  .map (.bind (.require _ _) fun _ => .bind (.require _ _) fun _ => .ok _) _

theorem collectionUrl_needs (s : State) (base : String) : NeedsAttributes (collectionUrl s base) :=
  .bind (.require _ _) fun _ => .ok _

theorem objectUrl_needs (s : State) (base : String) : NeedsAttributes (objectUrl s base) :=
  .bind (collectionUrl_needs s base) fun _ => .bind (.require _ _) fun _ => .ok _

theorem clean_created (id : String) : Writer.Clean (created id) :=
  .of_first fun _ _ _ _ => nofun

theorem sound : resource.Sound :=
  .of_parts collectionUrl_needs objectUrl_needs body_needs ⟨rfl, rfl⟩
    (by rintro _ ⟨⟩; exact .map clean_created) ⟨rfl, rfl, rfl⟩ ⟨rfl, rfl, rfl⟩
    (by simp [resource])

end Listener

namespace Binding

theorem Reference.ofState_needs (r : ReferenceState) : NeedsAttributes (ofState r) :=
  .bind (.require _ _) fun _ => .ok _

theorem body_needs (s : State) : NeedsAttributes (body s) :=
  .map (.bind (.mapM_list Reference.ofState_needs _) fun _ => .bind (.require _ _) fun _ => .ok _) _

theorem collectionUrl_needs (s : State) (base : String) : NeedsAttributes (collectionUrl s base) :=
  .bind (.require _ _) fun _ => .ok _

theorem objectUrl_needs (s : State) (base : String) : NeedsAttributes (objectUrl s base) :=
  .bind (collectionUrl_needs s base) fun _ => .bind (.require _ _) fun _ => .ok _

theorem clean_created (id : String) : Writer.Clean (created id) :=
  .of_first fun _ _ _ _ => nofun

theorem sound : resource.Sound :=
  .of_parts collectionUrl_needs objectUrl_needs body_needs ⟨rfl, rfl⟩
    (by rintro _ ⟨⟩; exact .map clean_created) ⟨rfl, rfl, rfl⟩ ⟨rfl, rfl, rfl⟩
    (by simp [resource])

end Binding

namespace UserAccount

theorem EnvironmentVariable.ofState_needs (e : EnvironmentVariableState) :
    NeedsAttributes (ofState e) :=
  .bind (.require _ _) fun _ => .ok _

theorem KubernetesSecret.ofState_needs (k : KubernetesSecretState) : NeedsAttributes (ofState k) :=
  .bind (.require _ _) fun _ => .bind (.require _ _) fun _ => .ok _

theorem AwsSecret.ofState_needs (a : AwsSecretState) : NeedsAttributes (ofState a) :=
  .bind (.require _ _) fun _ => .ok _

theorem Vault.ofState_needs (h : VaultState) : NeedsAttributes (ofState h) :=
  .bind (.require _ _) fun _ => .ok _

theorem AuthScheme.ofState_needs (a : AuthSchemeState) : NeedsAttributes (ofState a) :=
  .bind (.mapM_option EnvironmentVariable.ofState_needs _) fun _ =>
    .bind (.mapM_option KubernetesSecret.ofState_needs _) fun _ =>
    .bind (.mapM_option AwsSecret.ofState_needs _) fun _ =>
    .bind (.mapM_option Vault.ofState_needs _) fun _ => .ok _

theorem body_needs (s : State) : NeedsAttributes (body s) :=
  .map (.bind (.require _ _) fun scheme => .bind (AuthScheme.ofState_needs scheme) fun _ =>
    .bind (.require _ _) fun _ => .ok _) _

theorem collectionUrl_needs (s : State) (base : String) : NeedsAttributes (collectionUrl s base) :=
  .bind (.require _ _) fun _ => .ok _

theorem objectUrl_needs (s : State) (base : String) : NeedsAttributes (objectUrl s base) :=
  .bind (collectionUrl_needs s base) fun _ => .bind (.require _ _) fun _ => .ok _

theorem clean_created (id : String) : Writer.Clean (created id) :=
  .of_first fun _ _ _ _ => nofun

theorem sound : resource.Sound :=
  .of_parts collectionUrl_needs objectUrl_needs body_needs ⟨rfl, rfl⟩
    (by rintro _ ⟨⟩; exact .map clean_created) ⟨rfl, rfl, rfl⟩ ⟨rfl, rfl, rfl⟩
    (by simp [resource])

end UserAccount

theorem ResourceKind.sound : (kind : ResourceKind) → kind.resource.Sound
  | .dataLabel => DataLabel.sound
  | .datadog => Datadog.sound
  | .logging => Logging.sound
  | .microsoftTeams => Webhook.sound .microsoftTeams
  | .slack => Webhook.sound .slack
  | .policy => Policy.sound
  | .repository => Repository.sound
  | .binding => Binding.sound
  | .authSettings => AuthSettings.sound
  | .userAccount => UserAccount.sound
  | .serviceAccount => ServiceAccount.sound
  | .sidecar => Sidecar.sound
  | .sidecarCredentials => SidecarCredentials.sound
  | .listener => Listener.sound

/--
Operations do all or nothing, whatever the control plane answers and whichever token is kept. The
steps of an object tell one diagnostic for an operation that fails, and none for another.
-/
theorem ResourceKind.operations_atomic (kind : ResourceKind) (s : kind.State) (session : Session) :
    (∀ (k : Connection), ∀ op ∈ kind.resource.operations, op.Atomic k s session) ∧
    ∀ (k? : Option Connection) (kept : Field Unit),
      kind.resource.Reports k? kind.resource.create s session
        (kind.resource.createObject k? ⟨.known s, kept⟩) (fun _ s' => ⟨.known s', kept⟩) ∧
      kind.resource.Reports k? kind.resource.read s session
        (kind.resource.readObject k? ⟨.known s, kept⟩)
        (fun outcome s' => ⟨Resource.found outcome s', kept⟩) ∧
      (∀ op, kind.resource.update = some op →
        kind.resource.Reports k? op s session
          (kind.resource.updateObject k? ⟨.known s, kept⟩) fun _ s' => ⟨.known s', kept⟩) ∧
      kind.resource.Reports k? kind.resource.delete s session
        (kind.resource.destroyObject k? (.known s)) fun _ _ => () := by
  constructor
  · intro k op hop
    exact kind.sound.atomic hop k s session
  · intro k? kept
    refine ⟨?_, ?_, ?_, ?_⟩
    · exact Resource.createObject_reports _ k? s kept session
    · exact Resource.readObject_reports _ k? s kept session
    · intro op hop
      exact Resource.updateObject_reports hop k? s kept session
    · exact Resource.destroyObject_reports _ k? s session

end ControlPlane
