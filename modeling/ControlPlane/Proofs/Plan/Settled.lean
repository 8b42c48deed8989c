import ControlPlane.Proofs.Plan
import ControlPlane.Proofs.Reads

/-!
States that nothing is planned for. A default stands in for what a configuration leaves out, and
all that comes back from the control plane has its defaults already.
-/
namespace ControlPlane

@[simp] theorem Field.orDefault_orDefault {α : Type} (x : Field α) (value : α) :
    (x.orDefault value).orDefault value = x.orDefault value := by
  cases x <;> rfl

theorem Field.map_blocks_eq_self {α : Type} {f : α → α} {blocks : List α}
    (h : ∀ b ∈ blocks, f b = b) : (Field.known blocks).map (·.map f) = .known blocks :=
  congrArg Field.known ((List.map_congr_left h).trans (List.map_id blocks))

theorem Field.map_blocks_of_idem {α : Type} {f : α → α} (hf : ∀ b, f (f b) = f b)
    (blocks : Field (List α)) : (blocks.map (·.map f)).map (·.map f) = blocks.map (·.map f) := by
  cases blocks with
  | null | unknown => rfl
  | known bs => exact map_blocks_eq_self (List.forall_mem_map.mpr fun b _ => hf b)

namespace Resource
variable {S : Type}

/-- Nothing is planned for an object that is proposed to stay as it is. -/
def Settled [DecidableEq S] (r : Resource S) (s : S) : Prop :=
  r.applyDefaults s = s ∧
    ∀ kept, r.planUpdate (.known s) (.known s) kept = (⟨.known s, kept⟩, [])

/-- The states that come back from the control plane, whatever the object was like before. -/
inductive Returned [DecidableEq S] (r : Resource S) (s : S) : Prop
  | created {k? : Option Connection} {config : Field S} {kept : Field Unit}
      {session session' : Session}
      (run : r.createObject k? (r.planCreate config) session = .ok ⟨.known s, kept⟩ session')
  | read {prior : S} {k : Connection} {kept kept' : Field Unit} {session session' : Session}
      {status : Http.Status} {body : List UInt8}
      (run : r.readObject (some k) ⟨.known prior, kept⟩ session = .ok ⟨.known s, kept'⟩ session')
      (reply : k.lastReply? session' = some (.complete status body))
      (told : ¬ body.all Text.isBlankByte)
  | updated {prior proposed : S} {k? : Option Connection} {kept kept' : Field Unit}
      {session session' : Session}
      (run : r.updateObject k? (r.planUpdate (.known prior) (.known proposed) kept).1 session =
        .ok ⟨.known s, kept'⟩ session')

/-- What becomes of the state of an object that is kept. A read can have a blank reply. -/
inductive Goes [DecidableEq S] (r : Resource S) (s s' : S) : Prop
  | read {k? : Option Connection} {kept kept' : Field Unit} {session session' : Session}
      (run : r.readObject k? ⟨.known s, kept⟩ session = .ok ⟨.known s', kept'⟩ session')
  | updated {proposed : S} {k? : Option Connection} {kept kept' : Field Unit}
      {session session' : Session}
      (run : r.updateObject k? (r.planUpdate (.known s) (.known proposed) kept).1 session =
        .ok ⟨.known s', kept'⟩ session')

end Resource

namespace DataLabel

theorem RuleState.applyDefaults_applyDefaults (r : RuleState) :
    r.applyDefaults.applyDefaults = r.applyDefaults := by
  simp only [applyDefaults, Field.orDefault_orDefault]

theorem applyDefaults_refresh (d : DataLabel) (s : State) :
    applyDefaults (refresh d s) = refresh d s := by
  have hrule : ∀ r ∈ (d.rule.map Rule.toState).toList, r.applyDefaults = r := by
    intro r hr
    obtain ⟨rule, -, rfl⟩ := Option.map_eq_some_iff.mp (Option.mem_toList.mp hr)
    rfl
  simp only [applyDefaults, refresh, Field.single, Field.map_blocks_eq_self hrule]

end DataLabel

namespace Binding

theorem ReferenceState.applyDefaults_applyDefaults (r : ReferenceState) :
    r.applyDefaults.applyDefaults = r.applyDefaults := by
  simp only [applyDefaults, Field.orDefault_orDefault]

theorem applyDefaults_refresh (b : Binding) (s : State) :
    applyDefaults (refresh b s) = refresh b s := by
  have hreferences : ∀ r ∈ b.references.map Reference.toState, r.applyDefaults = r :=
    List.forall_mem_map.mpr fun _ _ => rfl
  simp only [applyDefaults, refresh, Field.map_blocks_eq_self hreferences]
  rfl

end Binding

namespace ResourceKind
variable {kind : ResourceKind} {s s' : kind.State} {k? : Option Connection} {j : Json}
  {kept kept' : Field Unit} {session session' : Session}

theorem applyDefaults_applyDefaults (kind : ResourceKind) (s : kind.State) :
    kind.resource.applyDefaults (kind.resource.applyDefaults s) =
      kind.resource.applyDefaults s := by
  cases kind with
  | dataLabel =>
    simp only [resource, DataLabel.resource, DataLabel.applyDefaults,
      Field.map_blocks_of_idem DataLabel.RuleState.applyDefaults_applyDefaults]
  | binding =>
    simp only [resource, Binding.resource, Binding.applyDefaults, Field.orDefault_orDefault,
      Field.map_blocks_of_idem Binding.ReferenceState.applyDefaults_applyDefaults]
  | logging | policy | authSettings =>
    simp only [resource, Logging.resource, Logging.applyDefaults, Policy.resource,
      Policy.applyDefaults, AuthSettings.resource, AuthSettings.applyDefaults,
      Field.orDefault_orDefault]
  | _ => rfl

/-- No default is given to what a plan leaves open. -/
theorem markComputed_applyDefaults (kind : ResourceKind) (s : kind.State) :
    kind.resource.markComputed (kind.resource.applyDefaults s) =
      kind.resource.applyDefaults (kind.resource.markComputed s) := by
  cases kind <;> rfl

theorem computed_applyDefaults (kind : ResourceKind) (s : kind.State) :
    kind.identity.computed (kind.resource.applyDefaults s) = kind.identity.computed s := by
  cases kind <;> rfl

/-- A reader leaves no attribute null that has a default. -/
theorem applyDefaults_of_read (h : kind.resource.read.Writes j s s') :
    kind.resource.applyDefaults s' = s' := by
  cases kind with
  | dataLabel =>
    obtain ⟨d, -, rfl⟩ := (Operation.writes_iff_of_response_eq_of rfl).mp h
    exact DataLabel.applyDefaults_refresh d s
  | binding =>
    obtain ⟨b, -, rfl⟩ := (Operation.writes_iff_of_response_eq_of rfl).mp h
    exact Binding.applyDefaults_refresh b s
  | logging | policy | authSettings =>
    obtain ⟨told, -, rfl⟩ := (Operation.writes_iff_of_response_eq_of rfl).mp h
    rfl
  | _ => rfl

theorem replaceTriggers_self (kind : ResourceKind) (s : kind.State) :
    kind.resource.replaceTriggers s s = [] := by
  cases kind with
  | dataLabel | authSettings | userAccount | sidecarCredentials | listener =>
    exact Resource.changed_eq_nil_iff.mpr rfl
  | binding =>
    exact List.append_eq_nil_iff.mpr
      ⟨Resource.changed_eq_nil_iff.mpr rfl, Resource.changed_eq_nil_iff.mpr rfl⟩
  | _ => rfl

theorem settled_of_applyDefaults (h : kind.resource.applyDefaults s = s) :
    kind.resource.Settled s := by
  refine ⟨h, fun kept => ?_⟩
  simp only [Resource.planUpdate, Resource.triggers, h, replaceTriggers_self, ne_eq, not_true,
    and_false, if_false]

/-- The planned state has its defaults, and a reply fills in only what the plan left open. -/
theorem settled_of_createObject {config : Field kind.State}
    (h : kind.resource.createObject k? (kind.resource.planCreate config) session =
      .ok ⟨.known s, kept⟩ session') : kind.resource.Settled s := by
  obtain ⟨k, c, s₁, url, status, reply, -, rfl, hs, -, -, habsorb⟩ := exists_of_createObject h
  obtain rfl := Field.known.inj (Managed.mk.inj hs).1
  have hmarked := markComputed_of_absorb habsorb
  refine settled_of_applyDefaults (kind.identity_lawful.owns ?_ (kind.computed_applyDefaults s))
  calc kind.resource.markComputed (kind.resource.applyDefaults s)
      = kind.resource.applyDefaults (kind.resource.markComputed s) :=
        kind.markComputed_applyDefaults s
    _ = kind.resource.applyDefaults
          (kind.resource.applyDefaults (kind.resource.markComputed c)) := by
        rw [hmarked, markComputed_applyDefaults]
    _ = kind.resource.applyDefaults (kind.resource.markComputed c) :=
        kind.applyDefaults_applyDefaults _
    _ = kind.resource.markComputed s := by
        rw [hmarked, markComputed_applyDefaults]

theorem settled_of_updateObject {prior proposed : kind.State}
    (run : kind.resource.updateObject k?
      (kind.resource.planUpdate (.known prior) (.known proposed) kept).1 session =
        .ok ⟨.known s, kept'⟩ session') : kind.resource.Settled s := by
  obtain rfl := Field.known.inj (Managed.mk.inj (object_eq_of_updateObject run)).1
  exact settled_of_applyDefaults (kind.applyDefaults_applyDefaults proposed)

theorem settled_of_returned (h : kind.resource.Returned s) : kind.resource.Settled s := by
  cases h with
  | created run => exact settled_of_createObject run
  | read run reply told =>
    obtain ⟨j, hw, -⟩ :=
      (Resource.writes_or_eq_of_readObject run reply).resolve_left fun hkept => told hkept.1
    exact settled_of_applyDefaults (applyDefaults_of_read hw)
  | updated run => exact settled_of_updateObject run

theorem settled_of_goes (hs : kind.resource.Settled s) (h : kind.resource.Goes s s') :
    kind.resource.Settled s' := by
  cases h with
  | read run =>
    obtain ⟨_, _, _, -, -, ⟨-, rfl⟩ | ⟨j, hw, -⟩⟩ := Resource.exists_reply_of_readObject run
    · exact hs
    · exact settled_of_applyDefaults (applyDefaults_of_read hw)
  | updated run => exact settled_of_updateObject run

/--
Nothing is planned for a state that came back from the control plane, or for any state that it went
on to by reads and updates, as long as nothing else is proposed for the object.
-/
theorem settled_of_run (kind : ResourceKind) {s₀ s : kind.State}
    (hreturned : kind.resource.Returned s₀)
    (hrun : Relation.ReflTransGen kind.resource.Goes s₀ s) : kind.resource.Settled s := by
  induction hrun with
  | refl => exact settled_of_returned hreturned
  | tail _ hgoes ih => exact settled_of_goes ih hgoes

end ResourceKind

namespace Binding

/-- The binding as it is proposed with a second listener, and with the rest left to defaults. -/
def State.extended : State :=
  { State.named with
    enabled := .null
    references := .known [⟨.known "l1", .null⟩, ⟨.known "l2", .known 1⟩] }

set_option maxRecDepth 20000 in
/-- A binding is created with the defaults, extended with them and read, and is settled then. -/
theorem settled_of_extended :
    ResourceKind.binding.resource.Returned State.named ∧
    Relation.ReflTransGen ResourceKind.binding.resource.Goes State.named
      (applyDefaults .extended) ∧
    resource.applyDefaults State.extended ≠ .extended ∧
    resource.Settled (applyDefaults .extended) := by
  have hcreate : resource.createObject (some naming)
      (resource.planCreate (.known .configured)) { token := some ⟨"t", none⟩ } =
        .ok ⟨.known .named, .null⟩
          { log := [⟨.post, "/v1/sidecars/s1/bindings", some "Bearer t", .json (.obj [("binding",
              .obj [("repoId", .str "r1"), ("enabled", .bool true), ("listenerBindings",
                .arr [.obj [("listenerId", .str "l1"), ("nodeIndex", .int 0)]])])])⟩]
            token := some ⟨"t", none⟩ } := by
    cbv
  have hupdate : ∃ session, resource.updateObject (some (.replying []))
      (resource.planUpdate (.known .named) (.known .extended) .null).1
        { token := some ⟨"t", none⟩ } =
          .ok ⟨.known (applyDefaults .extended), .null⟩ session :=
    ⟨_, rfl⟩
  have hread : ∃ session, resource.readObject (some (.replying []))
      ⟨.known (applyDefaults .extended), .null⟩ { token := some ⟨"t", none⟩ } =
        .ok ⟨.known (applyDefaults .extended), .null⟩ session :=
    ⟨_, rfl⟩
  obtain ⟨updated, hupdate⟩ := hupdate
  obtain ⟨last, hread⟩ := hread
  have hreturned : ResourceKind.binding.resource.Returned State.named := .created hcreate
  have hrun : Relation.ReflTransGen ResourceKind.binding.resource.Goes State.named
      (applyDefaults .extended) :=
    .tail (.single (.updated hupdate)) (.read hread)
  exact ⟨hreturned, hrun, by decide, ResourceKind.settled_of_run .binding hreturned hrun⟩

end Binding
end ControlPlane
