import ControlPlane.Catalog
import ControlPlane.Proofs.Attribute
import ControlPlane.Proofs.Reads
import ControlPlane.Proofs.ServiceAccount.Permissions

/-!
Objects that are told again as they were told before. What is null or kept in view of the state that
was there comes out the same in view of the state that it left, so that only the first time counts.
-/
namespace ControlPlane

namespace Field

@[simp] theorem ofFlag_ofFlag (b : Bool) (prior : Field Bool) :
    ofFlag b (ofFlag b prior) = ofFlag b prior := by
  cases b <;> cases prior <;> rfl

/-- An empty list is written as an empty list if there was one, and as null if not. -/
@[simp] theorem ofStrings_ofStrings (vs : List String) (prior : StringList) :
    ofStrings vs (ofStrings vs prior) = ofStrings vs prior := by
  unfold ofStrings
  by_cases hvs : vs = []
  · by_cases hprior : prior = known []
    · simp [hvs, hprior, knownStrings]
    · simp [hvs, hprior]
  · simp [hvs]

end Field

namespace DataLabel

theorem refresh_refresh (d : DataLabel) (s : State) : refresh d (refresh d s) = refresh d s := by
  simp only [refresh, Field.ofStrings_ofStrings]

end DataLabel

namespace Datadog

theorem refresh_refresh (d : Datadog) (s : State) : refresh d (refresh d s) = refresh d s := by
  unfold refresh
  cases d.apiKey.filter (· ≠ "") <;> rfl

end Datadog

namespace Webhook

theorem refresh_refresh (w : Webhook) (s : State) : refresh w (refresh w s) = refresh w s := by
  unfold refresh
  cases w.url.filter (· ≠ "") <;> rfl

end Webhook

namespace Logging

@[simp] theorem keepSecret_keepSecret (told : String) (prior : Field String) :
    keepSecret told (keepSecret told prior) = keepSecret told prior := by
  unfold keepSecret
  by_cases h : told = "" <;> simp [h]

theorem DatadogLogs.toState_toState (d : DatadogLogs) (prior : Option DatadogState) :
    d.toState (some (d.toState prior)) = d.toState prior := by
  simp only [toState, Option.map_some, Option.getD_some, keepSecret_keepSecret]

theorem Splunk.toState_toState (b : Splunk) (prior : SplunkState) :
    b.toState (b.toState prior) = b.toState prior := by
  simp only [toState, keepSecret_keepSecret, Field.ofFlag_ofFlag]
  cases Text.Decimal.parse? b.hecPort <;> rfl

/-- A block that is told is written again in view of itself. -/
theorem refresh_refresh (l : Logging) (s : State) : refresh l (refresh l s) = refresh l s := by
  have hdatadog : l.datadog.map (·.toState (refresh l s).datadog.first) =
      l.datadog.map (·.toState s.datadog.first) := by
    cases h : l.datadog with
    | none => rfl
    | some d => simp only [refresh, h, Option.map_some, Field.first_single, d.toState_toState]
  have hsplunk : l.splunk.map (·.toState ((refresh l s).splunk.first.getD .empty)) =
      l.splunk.map (·.toState (s.splunk.first.getD .empty)) := by
    cases h : l.splunk with
    | none => rfl
    | some b =>
      simp only [refresh, h, Option.map_some, Field.first_single, Option.getD_some,
        b.toState_toState]
  rw [refresh, hdatadog, hsplunk]
  rfl

end Logging

namespace Policy

theorem refresh_refresh (p : Policy) (s : State) : refresh p (refresh p s) = refresh p s := by
  simp only [refresh, Field.ofStrings_ofStrings]

end Policy

namespace Repository

theorem refreshNodes_refreshNodes (ns : List Node) (priors : List NodeState) :
    refreshNodes ns (refreshNodes ns priors) = refreshNodes ns priors := by
  induction ns generalizing priors with
  | nil => rfl
  | cons n ns ih =>
    cases priors with
    | nil => simp only [refreshNodes, Node.toState, Field.ofFlag_ofFlag, ih]
    | cons prior priors => simp only [refreshNodes, Node.toState, Field.ofFlag_ofFlag, ih]

theorem refresh_refresh (r : Repository) (s : State) : refresh r (refresh r s) = refresh r s := by
  simp only [refresh, Field.ofStrings_ofStrings, Field.elems_known, refreshNodes_refreshNodes]

end Repository

namespace UserAccount

theorem refresh_refresh (u : UserAccount) (s : State) : refresh u (refresh u s) = refresh u s := by
  have hscheme : u.authScheme.toState (refresh u s).priorDynamic =
      u.authScheme.toState s.priorDynamic := by
    cases h : u.authScheme.vault with
    | none => simp only [AuthScheme.toState, h, Option.map_none]
    | some v =>
      have hprior : (refresh u s).priorDynamic = .ofFlag v.isDynamic s.priorDynamic := by
        simp only [State.priorDynamic, refresh, AuthScheme.toState, h, Field.known?_known,
          Option.bind_some, Option.map_some, Field.first_single, Option.getD_some, Vault.toState]
      simp only [AuthScheme.toState, h, Option.map_some, Vault.toState, hprior,
        Field.ofFlag_ofFlag]
  rw [refresh, hscheme]
  rfl

end UserAccount

namespace ServiceAccount

/-- After the account is told, the state has its permissions, so that their list stays. -/
theorem refresh_refresh (a : ServiceAccount) (s : State) :
    refresh a (refresh a s) = refresh a s := by
  have hids : (refresh a (refresh a s)).permissionIds = (refresh a s).permissionIds :=
    permissionIds_refresh_of_eq (permissions_refresh a s)
  calc refresh a (refresh a s)
      = { refresh a s with permissionIds := (refresh a (refresh a s)).permissionIds } := rfl
    _ = refresh a s := by rw [hids]

end ServiceAccount

namespace Sidecar

theorem refresh_refresh (c : Sidecar) (s : State) : refresh c (refresh c s) = refresh c s := by
  simp only [refresh, Field.ofStrings_ofStrings]

end Sidecar

namespace Listener

theorem refresh_refresh (l : Listener) (s : State) : refresh l (refresh l s) = refresh l s := by
  simp only [refresh, Field.ofStrings_ofStrings]

end Listener

namespace Resource
variable {S R : Type} {r : Resource S} {read : Json → Option R} {refresh : R → S → S}
  {s s' : S} {reply : List UInt8} {replies : List (List UInt8)}

/-- Reads that write what they are told, in such a way that telling it again changes nothing. -/
def RefreshesOnce (r : Resource S) : Prop :=
  ∃ (R : Type) (read : Json → Option R) (refresh : R → S → S),
    r.read.response = some (.of read refresh) ∧
      ∀ told s, refresh told (refresh told s) = refresh told s

/-- A state that has what a reply tells already. -/
def Knows (read : Json → Option R) (refresh : R → S → S) (s : S) (reply : List UInt8) : Prop :=
  ∀ told, (Json.parse? reply).bind read = some told → refresh told s = s

theorem eq_of_readObject_of_knows (hread : r.read.response = some (.of read refresh))
    (hknows : Knows read refresh s reply) {k : Connection}
    {kept kept' : Field Unit} {session session' : Session} {status : Http.Status}
    (run : r.readObject (some k) ⟨.known s, kept⟩ session = .ok ⟨.known s', kept'⟩ session')
    (last : k.lastReply? session' = some (.complete status reply)) : s' = s := by
  rw [refresh_of_readObject hread run last]
  cases htold : (Json.parse? reply).bind read with
  | none => rfl
  | some told => exact hknows told htold

/-- Replies of what the state has already do not change it, however many there are. -/
theorem Reads.eq_of_knows (hread : r.read.response = some (.of read refresh))
    (h : r.Reads s replies s') (hknows : ∀ reply ∈ replies, Knows read refresh s reply) :
    s' = s := by
  induction h with
  | nil s => rfl
  | @cons s s₁ s' reply replies k kept kept' session session' status run last rest ih =>
    rw [List.forall_mem_cons] at hknows
    have hfirst : s₁ = s := eq_of_readObject_of_knows hread hknows.1 run last
    subst hfirst
    exact ih hknows.2

theorem Reads.knows (hread : r.read.response = some (.of read refresh))
    (hrefresh : ∀ told s, refresh told (refresh told s) = refresh told s)
    (h : r.Reads s [reply] s') : Knows read refresh s' reply := by
  intro told htold
  have hs : s' = refresh told s := by
    rw [h.eq_foldl hread, tellings_cons, htold]
    rfl
  rw [hs]
  exact hrefresh told s

end Resource

namespace ResourceKind

theorem refreshesOnce (kind : ResourceKind) : kind.resource.RefreshesOnce := by
  cases kind with
  | dataLabel => exact ⟨_, _, _, rfl, DataLabel.refresh_refresh⟩
  | datadog => exact ⟨_, _, _, rfl, Datadog.refresh_refresh⟩
  | logging => exact ⟨_, _, _, rfl, Logging.refresh_refresh⟩
  | microsoftTeams => exact ⟨_, _, _, rfl, Webhook.refresh_refresh⟩
  | slack => exact ⟨_, _, _, rfl, Webhook.refresh_refresh⟩
  | policy => exact ⟨_, _, _, rfl, Policy.refresh_refresh⟩
  | repository => exact ⟨_, _, _, rfl, Repository.refresh_refresh⟩
  | userAccount => exact ⟨_, _, _, rfl, UserAccount.refresh_refresh⟩
  | serviceAccount => exact ⟨_, _, _, rfl, ServiceAccount.refresh_refresh⟩
  | sidecar => exact ⟨_, _, _, rfl, Sidecar.refresh_refresh⟩
  | listener => exact ⟨_, _, _, rfl, Listener.refresh_refresh⟩
  | binding | authSettings | sidecarCredentials => exact ⟨_, _, _, rfl, fun _ _ => rfl⟩

/--
What a read is told is written into any state, and written again it changes nothing. An object that
is read once keeps its state for as long as its reads are replied to in the same way.
-/
theorem refresh_idempotent (kind : ResourceKind) :
    ∃ response, kind.resource.read.response = some response ∧
      (∀ j write, response j = some write →
        ∀ s, ∃ s₁, write s = .ok () s₁ ∧ write s₁ = .ok () s₁) ∧
      ∀ s reply s₁ again s₂, kind.resource.Reads s [reply] s₁ →
        kind.resource.Reads s₁ (List.replicate again reply) s₂ → s₂ = s₁ := by
  obtain ⟨R, read, refresh, hread, hrefresh⟩ := kind.refreshesOnce
  refine ⟨.of read refresh, hread, ?_, ?_⟩
  · intro j write hwrite s
    obtain ⟨told, -, rfl⟩ := Option.map_eq_some_iff.mp hwrite
    exact ⟨refresh told s, rfl, congrArg (EStateM.Result.ok ()) (hrefresh told s)⟩
  · intro s reply s₁ again s₂ hfirst h
    have hknows : Resource.Knows read refresh s₁ reply := hfirst.knows hread hrefresh
    apply h.eq_of_knows hread
    intro reply' hreply'
    rw [List.eq_of_mem_replicate hreply']
    exact hknows

/-- A sidecar is told without labels, which were not known. They are null from the first time on. -/
theorem refresh_idempotent_unlabelled :
    let told : Sidecar := ⟨"", "eu", [], "", "", "linux"⟩
    let before : Sidecar.State := ⟨.known "s1", .known "eu", .null, .unknown, .null, .null⟩
    let after : Sidecar.State := ⟨.known "s1", .known "eu", .known "linux", .null, .null, .null⟩
    ∃ response write, Sidecar.resource.read.response = some response ∧
      response told.toJson = some write ∧
      write before = .ok () after ∧ write after = .ok () after := by
  intro told before after
  obtain ⟨response, hresponse, hagain, -⟩ := refresh_idempotent .sidecar
  obtain rfl : Response.of Sidecar.ofJson? Sidecar.refresh = response :=
    Option.some.inj hresponse
  have htold : Response.of Sidecar.ofJson? Sidecar.refresh told.toJson =
      some (modify (Sidecar.refresh told)) := rfl
  obtain ⟨s, hfirst, hsecond⟩ := hagain told.toJson _ htold before
  obtain rfl : after = s := congrArg (fun | .ok _ s => s | .error _ s => s) hfirst
  exact ⟨_, _, rfl, htold, hfirst, hsecond⟩

end ResourceKind
end ControlPlane
