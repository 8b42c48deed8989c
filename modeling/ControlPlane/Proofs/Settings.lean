import ControlPlane.Proofs.Failure
import ControlPlane.Settings

/-!
The settings of the provider, taken from its block and its environment. Settings that pass the check
can be resolved, unless the block gives an empty text for one. The check says nothing of that, and
resolving fails.
-/
namespace ControlPlane.ProviderBlock
variable {b : ProviderBlock} {env : Environment} {s : Setting}

/-- A setting for which there is no text: it is missing, or the block gives an empty one. -/
def Lacks (b : ProviderBlock) (env : Environment) (s : Setting) : Prop :=
  b.isMissing env s ∨ b.get s = .known ""

instance : DecidablePred (b.Lacks env) := fun _ => inferInstanceAs (Decidable (_ ∨ _))

theorem missingDiagnostic_injective : Function.Injective missingDiagnostic := by
  intro s s' h
  have hpath : (missingDiagnostic s).path = (missingDiagnostic s').path := congrArg _ h
  cases s <;> cases s' <;> first | rfl | exact absurd hpath (by decide)

theorem mem_required (s : Setting) : s ∈ required := by
  cases s <;> decide

theorem mem_validate_iff : missingDiagnostic s ∈ b.validate env ↔ b.isMissing env s := by
  rw [validate, List.mem_map_of_injective missingDiagnostic_injective, List.mem_filter]
  exact and_iff_right (mem_required s)

theorem validate_eq_nil_iff : b.validate env = [] ↔ ∀ s, ¬ b.isMissing env s := by
  rw [validate, List.map_eq_nil_iff, List.filter_eq_nil_iff]
  exact ⟨fun h s => h s (mem_required s), fun h s _ => h s⟩

theorem detail_missingDiagnostic (s : Setting) :
    (missingDiagnostic s).detail = (Failure.config (.missing s)).message ++ "." := by
  cases s <;> rfl

theorem picked_eq_none_iff (hs : b.get s ≠ .unknown) :
    ((b.get s).known? <|> env s.envName).filter (· ≠ "") = none ↔ b.Lacks env s := by
  unfold Lacks isMissing
  cases hget : b.get s with
  | null => cases env s.envName <;> simp [Field.known?, Field.isNull]
  | unknown => exact absurd hget hs
  | known value => simp [Field.known?, Field.isNull]

theorem pick_of_lacks (hs : b.get s ≠ .unknown) (h : b.Lacks env s) :
    b.pick env s = .error (.config (.missing s)) := by
  rw [pick, (picked_eq_none_iff hs).mpr h]

theorem exists_pick (hs : b.get s ≠ .unknown) (h : ¬ b.Lacks env s) :
    ∃ value, b.pick env s = .ok value := by
  cases hpicked : ((b.get s).known? <|> env s.envName).filter (· ≠ "") with
  | none => exact absurd ((picked_eq_none_iff hs).mp hpicked) h
  | some value => exact ⟨value, by rw [pick, hpicked]⟩

/-- What comes of taking settings: the first one that is lacking, if there is one, decides. -/
def Decides {α : Type} (b : ProviderBlock) (env : Environment) (settings : List Setting)
    (result : Except Failure α) : Prop :=
  (∃ a, result = .ok a) ∧ settings.find? (b.Lacks env ·) = none ∨
    ∃ s, result = .error (.config (.missing s)) ∧ settings.find? (b.Lacks env ·) = some s

theorem Decides.pick {α : Type} {rest : List Setting} {f : String → Except Failure α}
    (hs : b.get s ≠ .unknown) (h : ∀ value, b.Decides env rest (f value)) :
    b.Decides env (s :: rest) (b.pick env s >>= f) := by
  by_cases hlacks : b.Lacks env s
  · right
    refine ⟨s, ?_, List.find?_cons_of_pos (by simpa)⟩
    rw [pick_of_lacks hs hlacks]
    rfl
  · obtain ⟨value, hpick⟩ := exists_pick hs hlacks
    rw [Decides, hpick, List.find?_cons_of_neg (by simpa)]
    exact h value

theorem decides_resolve (env : Environment) (hb : ∀ s, b.get s ≠ .unknown) :
    b.Decides env required (b.resolve env) := by
  apply Decides.pick (hb .clientId)
  intro clientId
  apply Decides.pick (hb .clientSecret)
  intro clientSecret
  apply Decides.pick (hb .controlPlane)
  intro controlPlane
  exact .inl ⟨⟨_, rfl⟩, rfl⟩

/-- The first diagnostic is that of the first setting that is missing. -/
theorem head?_validate (b : ProviderBlock) (env : Environment) :
    (b.validate env).head? = (required.find? (b.isMissing env)).map missingDiagnostic := by
  rw [validate, List.head?_map, List.head?_filter]

theorem find?_lacks_eq_none_iff :
    required.find? (b.Lacks env ·) = none ↔ b.validate env = [] ∧ ∀ s, b.get s ≠ .known "" := by
  rw [List.find?_eq_none, validate_eq_nil_iff]
  constructor
  · intro h
    have hs (s : Setting) : ¬ b.Lacks env s := by simpa using h s (mem_required s)
    exact ⟨fun s hmissing => hs s (.inl hmissing), fun s hempty => hs s (.inr hempty)⟩
  · rintro ⟨hmissing, hempty⟩ s _
    have hs : ¬ b.Lacks env s := not_or.mpr ⟨hmissing s, hempty s⟩
    simpa using hs

/--
Settings can be resolved if they pass the check and the block gives no empty text. If not, the first
setting that the check reports or that the block leaves empty is named, so that without empty texts
what is said is what the check says first.
-/
theorem resolve_agrees (b : ProviderBlock) (env : Environment) (hb : ∀ s, b.get s ≠ .unknown) :
    ((∃ settings, b.resolve env = .ok settings) ↔
      b.validate env = [] ∧ ∀ s, b.get s ≠ .known "") ∧
    ∀ failure, b.resolve env = .error failure →
      ∃ s, failure = .config (.missing s) ∧
        required.find? (fun s => missingDiagnostic s ∈ b.validate env ∨ b.get s = .known "") =
          some s ∧
        ((∀ s, b.get s ≠ .known "") →
          ∃ d, (b.validate env).head? = some d ∧ d.path = .of s.name ∧
            d.detail = failure.message ++ ".") := by
  have hlacks : (fun s => decide (missingDiagnostic s ∈ b.validate env ∨ b.get s = .known "")) =
      (b.Lacks env ·) := by
    funext s
    rw [decide_eq_decide, mem_validate_iff]
    rfl
  rw [hlacks]
  rcases decides_resolve env hb with ⟨⟨settings, hresolve⟩, hnone⟩ | ⟨s, hresolve, hsome⟩
  · rw [find?_lacks_eq_none_iff] at hnone
    constructor
    · exact iff_of_true ⟨settings, hresolve⟩ hnone
    · intro failure hfailure
      rw [hresolve] at hfailure
      cases hfailure
  · rw [hresolve]
    constructor
    · refine iff_of_false (by simp) ?_
      rw [← find?_lacks_eq_none_iff, hsome]
      simp
    · intro failure hfailure
      cases hfailure
      refine ⟨s, rfl, hsome, fun hempty => ?_⟩
      refine ⟨missingDiagnostic s, ?_, rfl, detail_missingDiagnostic s⟩
      have hmissing : b.isMissing env = (b.Lacks env ·) := by
        funext s
        rw [Bool.eq_iff_iff, decide_eq_true_iff]
        exact (or_iff_left (hempty s)).symm
      rw [head?_validate, hmissing, hsome]
      rfl

/-- The first of two settings that are missing is named. -/
theorem resolve_agrees_unset :
    let b : ProviderBlock := ⟨.known "id", .null, .null, .null⟩
    let env : Environment := fun name => if name = "CYRAL_TF_CLIENT_SECRET" then some "" else none
    (∀ s, b.get s ≠ .unknown) ∧ (∀ s, b.get s ≠ .known "") ∧
      b.resolve env = .error (.config (.missing .clientSecret)) ∧
      ∃ d, (b.validate env).head? = some d ∧ d.path = .of "client_secret" := by
  intro b env
  have hb : ∀ s, b.get s ≠ .unknown := by intro s; cases s <;> decide
  have hempty : ∀ s, b.get s ≠ .known "" := by intro s; cases s <;> decide
  have hresolve : b.resolve env = .error (.config (.missing .clientSecret)) := by rfl
  obtain ⟨s, hs, -, hfirst⟩ := (resolve_agrees b env hb).2 _ hresolve
  cases hs
  obtain ⟨d, hd, hpath, -⟩ := hfirst hempty
  exact ⟨hb, hempty, hresolve, d, hd, hpath⟩

/-- The check passes an empty client ID, for which resolving fails, and names a setting that comes
after it. -/
theorem empty_setting_unseen :
    let env : Environment := fun _ => none
    (∀ s, ProviderBlock.get ⟨.known "", .known "s", .known "cp", .null⟩ s ≠ .unknown) ∧
      ¬ (validate ⟨.known "", .known "s", .known "cp", .null⟩ env = [] ↔
        ∃ settings, resolve ⟨.known "", .known "s", .known "cp", .null⟩ env = .ok settings) ∧
      (validate ⟨.known "", .null, .known "cp", .null⟩ env).head? =
        some (missingDiagnostic .clientSecret) ∧
      resolve ⟨.known "", .null, .known "cp", .null⟩ env =
        .error (.config (.missing .clientId)) := by
  intro env
  have hvalidate : validate ⟨.known "", .known "s", .known "cp", .null⟩ env = [] := by rfl
  have hresolve : resolve ⟨.known "", .known "s", .known "cp", .null⟩ env =
      .error (.config (.missing .clientId)) := by rfl
  refine ⟨by intro s; cases s <;> decide, ?_, by rfl, by rfl⟩
  rw [hresolve]
  intro h
  obtain ⟨settings, hsettings⟩ := h.mp hvalidate
  cases hsettings

end ControlPlane.ProviderBlock
