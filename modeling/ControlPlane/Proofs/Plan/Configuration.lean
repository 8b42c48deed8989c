import ControlPlane.Proofs.Completion
import ControlPlane.Proofs.Plan.Settled

/-!
Plans beside what is configured. A plan keeps all that a configuration gives, at any depth, but for
the attributes that only the control plane can tell. What a configuration leaves out stays out of
the plan as well, unless the schema says that there is a default for it.
-/
namespace ControlPlane
open Exchange (toValue)

namespace Value

/-- A member of an object, which is null if the object has no such member. -/
def get (v : Value) (name : String) : Value := (v.member? name).getD .null

/-- The elements of two lists in pairs. Values other than lists are the same. -/
def Pairs (P : Value → Value → Prop) : Value → Value → Prop
  | .list vs, .list ws => List.Forall₂ P vs ws
  | v, w => w = v

end Value

/-- The blocks of a configuration beside those of a plan. -/
def Nesting.Pairs (P : Value → Value → Prop) : Nesting → Value → Value → Prop
  | .single => P
  | .list | .optional => Value.Pairs P

/-- What is planned for an attribute, beside what is configured for it. Only an attribute that has a
default gets a value where none is configured, and then it always gets one. -/
def Constraint.Follows : Constraint → Value → Value → Prop
  | .optionalComputed, configured, planned =>
    planned ≠ .null ∧ (configured ≠ .null → planned = configured)
  | _, configured, planned => planned = configured

namespace Block

/-- The members of an object that the block describes, in their order. -/
def names (block : Block) : List String := block.attributes.map (·.1) ++ block.blocks.map (·.1)

/-- The attributes that only the control plane can tell. -/
def computed (block : Block) : List String :=
  (block.attributes.filter fun a => a.2.constraint = .computed).map (·.1)

end Block

mutual

/-- What is planned for a block follows what is configured for it, in every attribute that is not
set aside and in all the blocks in it. What is no object stays as it is. -/
def Block.Follows : Block → List String → Value → Value → Prop
  | .mk description attributes blocks, aside, .object ms, .object ns =>
    ms.map (·.1) = (mk description attributes blocks).names ∧ ns.map (·.1) = ms.map (·.1) ∧
    (∀ a ∈ attributes, a.1 ∉ aside →
      a.2.constraint.Follows (Value.get (.object ms) a.1) (Value.get (.object ns) a.1)) ∧
    Block.FollowsIn blocks (.object ms) (.object ns)
  | _, _, configured, planned => planned = configured

def Block.FollowsIn : List (String × Nesting × Block) → Value → Value → Prop
  | [], _, _ => True
  | (name, nesting, block) :: rest, configured, planned =>
    nesting.Pairs (block.Follows []) (configured.get name) (planned.get name) ∧
      Block.FollowsIn rest configured planned

end

/-- The marking of computed attributes changes the attribute, in some state. -/
def Resource.Marks {S : Type} [Exchange S] (r : Resource S) (name : String) : Prop :=
  ∃ s, (toValue (r.markComputed s)).member? name ≠ (toValue s).member? name

theorem Field.map_id {α : Type} (x : Field α) : x.map id = x := by
  cases x <;> rfl

namespace Constraint

theorem follows_self {c : Constraint} (h : c ≠ .optionalComputed) (v : Value) : c.Follows v v := by
  cases c with
  | optionalComputed => exact absurd rfl h
  | required | optional | computed => rfl

/-- A default takes the place of null, and of nothing else. -/
theorem follows_orDefault {α : Type} [Exchange α] [Exchange.Definite α] (x : Field α) (value : α) :
    optionalComputed.Follows (toValue x) (toValue (x.orDefault value)) := by
  cases x with
  | null => exact ⟨Exchange.Definite.ne_null value, fun h => absurd rfl h⟩
  | unknown => exact ⟨nofun, fun _ => rfl⟩
  | known a => exact ⟨Exchange.Definite.ne_null a, fun _ => rfl⟩

end Constraint

namespace Value
variable {α : Type} [Exchange α] {P : Value → Value → Prop} {name key : String}

theorem pairs_map {f : α → α} (hf : ∀ a, P (toValue a) (toValue (f a))) (x : Field (List α)) :
    Pairs P (toValue x) (toValue (x.map (·.map f))) := by
  cases x with
  | null | unknown => rfl
  | known as =>
    have hpairs : List.Forall₂ P (as.map toValue) ((as.map f).map toValue) := by
      rw [List.map_map, List.forall₂_map_left_iff, List.forall₂_map_right_iff]
      exact List.forall₂_same.mpr fun a _ => hf a
    exact hpairs

theorem pairs_self (hP : ∀ a : α, P (toValue a) (toValue a)) (x : Field (List α)) :
    Pairs P (toValue x) (toValue x) := by
  have hpairs := pairs_map (f := id) hP x
  rwa [show (fun as : List α => as.map id) = id from funext List.map_id, Field.map_id] at hpairs

theorem member?_cons_of_ne (h : name ≠ key) (v : Value) (ms : List (String × Value)) :
    (object ((key, v) :: ms)).member? name = (object ms).member? name := by
  show List.lookup name ((key, v) :: ms) = List.lookup name ms
  rw [List.lookup_cons, beq_false_of_ne h]

end Value

namespace Block
variable {description : Description} {attributes : List (String × Attribute)}
  {blocks : List (String × Nesting × Block)} {block : Block} {aside : List String}
  {ms ns ns' : List (String × Value)} {v w w' : Value}

theorem follows_object (hms : ms.map (·.1) = (mk description attributes blocks).names)
    (hns : ns.map (·.1) = ms.map (·.1))
    (hattributes : ∀ a ∈ attributes,
      a.2.constraint.Follows (Value.get (.object ms) a.1) (Value.get (.object ns) a.1))
    (hblocks : FollowsIn blocks (.object ms) (.object ns)) :
    (mk description attributes blocks).Follows [] (.object ms) (.object ns) := by
  rw [Follows]
  exact ⟨hms, hns, fun a ha _ => hattributes a ha, hblocks⟩

theorem follows_self (hms : ms.map (·.1) = (mk description attributes blocks).names)
    (hattributes : ∀ a ∈ attributes, a.2.constraint ≠ .optionalComputed)
    (hblocks : FollowsIn blocks (.object ms) (.object ms)) :
    (mk description attributes blocks).Follows [] (.object ms) (.object ms) :=
  follows_object hms rfl (fun a ha => Constraint.follows_self (hattributes a ha) _) hblocks

theorem pairs_self {α : Type} [Exchange α] (members : α → List (String × Value))
    (hmembers : ∀ a, toValue a = .object (members a))
    (hnames : ∀ a, (members a).map (·.1) = (mk description attributes []).names)
    (hattributes : ∀ a ∈ attributes, a.2.constraint ≠ .optionalComputed) (x : Field (List α)) :
    Value.Pairs ((mk description attributes []).Follows []) (toValue x) (toValue x) := by
  apply Value.pairs_self
  intro a
  rw [hmembers a]
  exact follows_self (hnames a) hattributes trivial

theorem follows_map {α : Type} [Exchange α] {f : α → α}
    (hf : ∀ a, block.Follows aside (toValue a) (toValue (f a))) (x : Field α) :
    block.Follows aside (toValue x) (toValue (x.map f)) := by
  cases x with
  | null | unknown =>
    cases block
    rfl
  | known a => exact hf a

theorem follows_field {α : Type} [Exchange α]
    (h : ∀ a : α, block.Follows aside (toValue a) (toValue a)) (x : Field α) :
    block.Follows aside (toValue x) (toValue x) := by
  have hmap := follows_map (f := id) h x
  rwa [Field.map_id] at hmap

theorem FollowsIn.of_get (h : FollowsIn blocks v w)
    (hget : ∀ b ∈ blocks, w'.get b.1 = w.get b.1) : FollowsIn blocks v w' := by
  induction blocks with
  | nil => trivial
  | cons b blocks ih =>
    rw [List.forall_mem_cons] at hget
    rw [FollowsIn] at h ⊢
    rw [hget.1]
    exact ⟨h.1, ih h.2 hget.2⟩

/-- What changes in a plan can be set aside, unless it is in a block. -/
theorem Follows.of_get (h : block.Follows [] v (.object ns))
    (hnames : ns'.map (·.1) = ns.map (·.1))
    (hget : ∀ name ∉ aside, (Value.object ns').get name = (Value.object ns).get name)
    (hblocks : ∀ b ∈ block.blocks, b.1 ∉ aside) : block.Follows aside v (.object ns') := by
  obtain ⟨description, attributes, blocks⟩ := block
  cases v with
  | object ms =>
    rw [Follows] at h ⊢
    obtain ⟨hms, hns, hattributes, hin⟩ := h
    refine ⟨hms, hnames.trans hns, ?_, hin.of_get fun b hb => hget b.1 (hblocks b hb)⟩
    intro a ha haside
    rw [hget a.1 haside]
    exact hattributes a ha List.not_mem_nil
  | _ => cases h

end Block

namespace DataLabel

theorem follows_applyDefaults (s : State) :
    schema.block.Follows [] (toValue s) (toValue (applyDefaults s)) := by
  refine Block.follows_object rfl rfl ?_ ⟨?_, trivial⟩
  · simp only [List.forall_mem_cons]
    exact ⟨rfl, rfl, rfl, rfl, nofun⟩
  · refine Value.pairs_map (fun r => ?_) s.rule
    refine Block.follows_object rfl rfl ?_ trivial
    simp only [List.forall_mem_cons]
    exact ⟨rfl, rfl, Constraint.follows_orDefault r.status "ENABLED", nofun⟩

end DataLabel

namespace Logging

theorem follows_applyDefaults (s : State) :
    schema.block.Follows [] (toValue s) (toValue (applyDefaults s)) := by
  refine Block.follows_object rfl rfl ?_ ⟨?_, ?_, ?_, trivial⟩
  · simp only [List.forall_mem_cons]
    exact ⟨rfl, rfl, Constraint.follows_orDefault s.receiveAuditLogs false, nofun⟩
  · exact Block.pairs_self _ (fun _ => rfl) (fun _ => rfl) (by decide) s.cloudWatch
  · exact Block.pairs_self _ (fun _ => rfl) (fun _ => rfl) (by decide) s.datadog
  · exact Block.pairs_self _ (fun _ => rfl) (fun _ => rfl) (by decide) s.splunk

end Logging

namespace Policy

theorem follows_applyDefaults (s : State) :
    schema.block.Follows [] (toValue s) (toValue (applyDefaults s)) := by
  refine Block.follows_object rfl rfl ?_ trivial
  simp only [List.forall_mem_cons]
  exact ⟨rfl, rfl, rfl, Constraint.follows_orDefault s.enabled true, rfl, rfl, nofun⟩

end Policy

namespace Repository

theorem follows_self (s : State) : schema.block.Follows [] (toValue s) (toValue s) := by
  refine Block.follows_self rfl (by decide) ⟨?_, ?_, trivial⟩
  · exact Block.pairs_self _ (fun _ => rfl) (fun _ => rfl) (by decide) s.nodes
  · exact Block.pairs_self _ (fun _ => rfl) (fun _ => rfl) (by decide) s.mongo

end Repository

namespace Binding

theorem follows_applyDefaults (s : State) :
    schema.block.Follows [] (toValue s) (toValue (applyDefaults s)) := by
  refine Block.follows_object rfl rfl ?_ ⟨?_, trivial⟩
  · simp only [List.forall_mem_cons]
    exact ⟨rfl, rfl, rfl, rfl, Constraint.follows_orDefault s.enabled true, nofun⟩
  · refine Value.pairs_map (fun r => ?_) s.references
    refine Block.follows_object rfl rfl ?_ trivial
    simp only [List.forall_mem_cons]
    exact ⟨rfl, Constraint.follows_orDefault r.nodeIndex 0, nofun⟩

end Binding

namespace AuthSettings

theorem follows_applyDefaults (s : State) :
    schema.block.Follows [] (toValue s) (toValue (applyDefaults s)) := by
  refine Block.follows_object rfl rfl ?_ trivial
  simp only [List.forall_mem_cons]
  exact ⟨rfl, rfl, Constraint.follows_orDefault s.allowNativeAuth false,
    Constraint.follows_orDefault s.clientTls defaultTls,
    Constraint.follows_orDefault s.repoTls defaultTls,
    Constraint.follows_orDefault s.authType defaultAuthType, nofun⟩

end AuthSettings

namespace UserAccount

theorem follows_self (s : State) : schema.block.Follows [] (toValue s) (toValue s) := by
  refine Block.follows_self rfl (by decide) ⟨?_, trivial⟩
  refine Block.follows_field (fun a => ?_) s.authScheme
  refine Block.follows_self rfl nofun ⟨?_, ?_, ?_, ?_, trivial⟩
  · exact Block.pairs_self _ (fun _ => rfl) (fun _ => rfl) (by decide) a.environmentVariable
  · exact Block.pairs_self _ (fun _ => rfl) (fun _ => rfl) (by decide) a.kubernetesSecret
  · exact Block.pairs_self _ (fun _ => rfl) (fun _ => rfl) (by decide) a.awsSecret
  · exact Block.pairs_self _ (fun _ => rfl) (fun _ => rfl) (by decide) a.vault

end UserAccount

namespace Listener

theorem follows_self (s : State) : schema.block.Follows [] (toValue s) (toValue s) := by
  refine Block.follows_self rfl (by decide) ⟨?_, trivial⟩
  refine Block.follows_field (fun a => ?_) s.address
  exact Block.follows_self rfl (by decide) trivial

end Listener

namespace ResourceKind
variable {kind : ResourceKind} {name : String}

theorem follows_applyDefaults (kind : ResourceKind) (s : kind.State) :
    kind.resource.schema.block.Follows [] (toValue s)
      (toValue (kind.resource.applyDefaults s)) := by
  cases kind with
  | dataLabel => exact DataLabel.follows_applyDefaults s
  | logging => exact Logging.follows_applyDefaults s
  | policy => exact Policy.follows_applyDefaults s
  | repository => exact Repository.follows_self s
  | binding => exact Binding.follows_applyDefaults s
  | authSettings => exact AuthSettings.follows_applyDefaults s
  | userAccount => exact UserAccount.follows_self s
  | listener => exact Listener.follows_self s
  | datadog | microsoftTeams | slack | serviceAccount | sidecar | sidecarCredentials =>
    exact Block.follows_self rfl (by decide) trivial

/-- An object of which nothing is told. -/
def blank : (kind : ResourceKind) → kind.State
  | .dataLabel => ⟨.null, .null, .null, .null, .null⟩
  | .datadog | .microsoftTeams | .slack => ⟨.null, .null, .null⟩
  | .logging => ⟨.null, .null, .null, .null, .null, .null⟩
  | .policy => ⟨.null, .null, .null, .null, .null, .null⟩
  | .repository => ⟨.null, .null, .null, .null, .null, .null⟩
  | .binding => ⟨.null, .null, .null, .null, .null, .null⟩
  | .authSettings => ⟨.null, .null, .null, .null, .null, .null⟩
  | .userAccount => ⟨.null, .null, .null, .null, .null, .null⟩
  | .serviceAccount => ⟨.null, .null, .null, .null, .null⟩
  | .sidecar => ⟨.null, .null, .null, .null, .null, .null⟩
  | .sidecarCredentials => ⟨.null, .null, .null, .null⟩
  | .listener => ⟨.null, .null, .null, .null, .null⟩

theorem member?_blank (h : name ∈ kind.opened) :
    (toValue kind.blank).member? name = some .null := by
  cases kind <;> simp only [opened, List.mem_cons, List.not_mem_nil, or_false] at h <;>
    rcases h with rfl | rfl | rfl <;> rfl

/-- The computed attributes of what is put in the place of something are copies of its name. The
others are left open. -/
theorem computed_eq (kind : ResourceKind) :
    kind.resource.schema.block.computed =
      if kind = .dataLabel ∨ kind = .authSettings then ["id"] else kind.opened := by
  cases kind <;> rfl

theorem marks_iff (kind : ResourceKind) (name : String) :
    kind.resource.Marks name ↔ name ∈ kind.resource.schema.block.computed := by
  rw [computed_eq]
  split_ifs with hkind
  · rw [List.mem_singleton]
    constructor
    · intro h
      obtain ⟨s, hs⟩ := h
      by_contra hname
      apply hs
      rcases hkind with rfl | rfl
      · exact (Value.member?_cons_of_ne hname _ _).trans (Value.member?_cons_of_ne hname _ _).symm
      · exact (Value.member?_cons_of_ne hname _ _).trans (Value.member?_cons_of_ne hname _ _).symm
    · intro hname
      subst hname
      rcases hkind with rfl | rfl
      · exact ⟨DataLabel.State.mk .null (.known "") .null .null .null, nofun⟩
      · exact ⟨AuthSettings.State.mk .null (.known "") .null .null .null .null, nofun⟩
  · rw [not_or] at hkind
    constructor
    · intro h
      obtain ⟨s, hs⟩ := h
      by_contra hname
      exact hs ((opens hkind.1 hkind.2).member?_eq hname s)
    · intro hname
      refine ⟨kind.blank, ?_⟩
      rw [leavesOpen_of_mem_opened hname, member?_blank hname]
      nofun

theorem member?_markComputed (hname : name ∉ kind.resource.schema.block.computed)
    (s : kind.State) :
    (toValue (kind.resource.markComputed s)).member? name = (toValue s).member? name := by
  by_contra hne
  exact hname ((kind.marks_iff name).mp ⟨s, hne⟩)

theorem exists_members (kind : ResourceKind) (s : kind.State) :
    ∃ ms ns, toValue s = .object ms ∧ toValue (kind.resource.markComputed s) = .object ns ∧
      ns.map (·.1) = ms.map (·.1) := by
  cases kind <;> exact ⟨_, _, rfl, rfl, rfl⟩

theorem not_mem_computed_of_mem_blocks (kind : ResourceKind) :
    ∀ b ∈ kind.resource.schema.block.blocks, b.1 ∉ kind.resource.schema.block.computed := by
  cases kind <;> decide

theorem follows_markComputed (kind : ResourceKind) (s : kind.State) :
    kind.resource.schema.block.Follows kind.resource.schema.block.computed (toValue s)
      (toValue (kind.resource.markComputed (kind.resource.applyDefaults s))) := by
  have hdefaults := kind.follows_applyDefaults s
  obtain ⟨ms, ns, hms, hns, hnames⟩ := kind.exists_members (kind.resource.applyDefaults s)
  rw [hms] at hdefaults
  rw [hns]
  refine hdefaults.of_get hnames ?_ kind.not_mem_computed_of_mem_blocks
  intro name hname
  have hmember := member?_markComputed hname (kind.resource.applyDefaults s)
  rw [hms, hns] at hmember
  rw [Value.get, Value.get, hmember]

theorem planCreate_planCreate (kind : ResourceKind) (config : Field kind.State) :
    kind.resource.planCreate (kind.resource.planCreate config).state =
      kind.resource.planCreate config := by
  cases config with
  | null | unknown => rfl
  | known c =>
    have hplanned : kind.resource.markComputed (kind.resource.applyDefaults
        (kind.resource.markComputed (kind.resource.applyDefaults c))) =
          kind.resource.markComputed (kind.resource.applyDefaults c) := by
      rw [← markComputed_applyDefaults, markComputed_markComputed, applyDefaults_applyDefaults]
    exact congrArg (fun s => Managed.mk (.known s) .null) hplanned

theorem planUpdate_known (kind : ResourceKind) (prior : kind.State) (proposed : Field kind.State)
    (kept : Field Unit) :
    (kind.resource.planUpdate (.known prior) proposed kept).1 =
      ⟨proposed.map kind.resource.applyDefaults, kept⟩ := by
  cases proposed <;> rfl

/-- A plan is planned once more as it is, with the same triggers. -/
theorem planUpdate_planUpdate (kind : ResourceKind) (prior proposed : Field kind.State)
    (kept : Field Unit) :
    kind.resource.planUpdate prior (kind.resource.planUpdate prior proposed kept).1.state kept =
      kind.resource.planUpdate prior proposed kept := by
  cases prior with
  | null | unknown => rfl
  | known prior =>
    cases proposed with
    | null | unknown => rfl
    | known p => simp only [Resource.planUpdate, applyDefaults_applyDefaults]

/--
A plan follows what is configured, and to plan it once more changes nothing. A plan of a new object
sets aside the computed attributes, which are the ones that it marks. A plan of a change to an
object that there is sets nothing aside, so that the computed attributes stay as they are proposed.
-/
theorem plan_follows_configuration (kind : ResourceKind) :
    (∀ name, kind.resource.Marks name ↔ name ∈ kind.resource.schema.block.computed) ∧
    (∀ config, ∃ planned, kind.resource.planCreate config = ⟨planned, .null⟩ ∧
      kind.resource.schema.block.Follows kind.resource.schema.block.computed (toValue config)
        (toValue planned) ∧
      kind.resource.planCreate planned = ⟨planned, .null⟩) ∧
    ∀ prior proposed kept, ∃ planned triggers,
      kind.resource.planUpdate (.known prior) proposed kept = (⟨planned, kept⟩, triggers) ∧
      kind.resource.schema.block.Follows [] (toValue proposed) (toValue planned) ∧
      kind.resource.planUpdate (.known prior) planned kept = (⟨planned, kept⟩, triggers) := by
  refine ⟨kind.marks_iff, ?_, ?_⟩
  · intro config
    refine ⟨_, rfl, ?_, kind.planCreate_planCreate config⟩
    exact Block.follows_map kind.follows_markComputed config
  · intro prior proposed kept
    have hplan := kind.planUpdate_known prior proposed kept
    refine ⟨_, _, Prod.ext hplan rfl, Block.follows_map kind.follows_applyDefaults proposed, ?_⟩
    have hagain := kind.planUpdate_planUpdate (.known prior) proposed kept
    rw [hplan] at hagain
    rw [hagain]
    exact Prod.ext hplan rfl

end ResourceKind

/-- A binding is planned with its defaults, and with the IDs left to the control plane. -/
example : (Binding.resource.planCreate (.known .configured)).state =
    .known ⟨.unknown, .known "s1", .known "r1", .unknown, .known true,
      .known [⟨.known "l1", .known 0⟩]⟩ := rfl

end ControlPlane
