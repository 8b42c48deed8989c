import ControlPlane.Proofs.Attribute
import ControlPlane.Proofs.Completion
import ControlPlane.Provider
import ControlPlane.Resource.Lifecycle

/-!
Checks that last. What is reported of a configuration before all of it is known is reported of
everything that the configuration can turn out to be, in the same order and for the same places.
-/
namespace ControlPlane
open Exchange (toValue)

namespace Validation
variable {α : Type}

theorem oneOf_lasts (path : Path) {x y : Field String} (h : x.Settles Eq y)
    (allowed : List String) : (oneOf path x allowed).Sublist (oneOf path y allowed) := by
  cases h with
  | unknown => exact List.nil_sublist _
  | null => exact .refl _
  | known h =>
    cases h
    exact .refl _

theorem port_lasts (path : Path) {x y : Field Int64} (h : x.Settles Eq y) :
    (port path x).Sublist (port path y) := by
  cases h with
  | unknown => exact List.nil_sublist _
  | null => exact .refl _
  | known h =>
    cases h
    exact .refl _

/-- No element comes or goes when a list turns out. -/
theorem notEmpty_lasts (path : Path) {r : α → α → Prop} {x y : Field (List α)}
    (h : x.Settles (List.Forall₂ r) y) : (notEmpty path x).Sublist (notEmpty path y) := by
  cases h with
  | unknown => exact List.nil_sublist _
  | null => exact .refl _
  | known h => cases h <;> exact .refl _

theorem presence_settles {r : α → α → Prop} {x y : Field (List α)}
    (h : x.Settles (List.Forall₂ r) y) : (presence x).Settles Eq (presence y) := by
  cases h with
  | unknown => exact .unknown _
  | null => exact .null
  | known h =>
    cases h with
    | nil => exact .null
    | cons => exact .known rfl

/-- Alternatives are judged once all of them are known, and then they stay what they are. -/
theorem exactlyOneOf_lasts (path : Path) {xs ys : List (String × Field Unit)}
    (h : List.Forall₂ (fun x y => x.1 = y.1 ∧ x.2.Settles Eq y.2) xs ys) :
    (exactlyOneOf path xs).Sublist (exactlyOneOf path ys) := by
  by_cases hx : xs.any (·.2.isUnknown)
  · rw [exactlyOneOf, if_pos hx]
    exact List.nil_sublist _
  · have heq : xs = ys := by
      induction h with
      | nil => rfl
      | @cons a b as bs hab _ ih =>
        obtain ⟨name, x⟩ := a
        obtain ⟨name', y⟩ := b
        simp only [List.any_cons, Bool.or_eq_true, not_or] at hx
        obtain ⟨rfl, hsettles⟩ := hab
        rw [ih hx.2]
        cases hsettles with
        | unknown => exact absurd rfl hx.1
        | null => rfl
        | known h =>
          cases h
          rfl
    rw [heq]

theorem zipIdx_flatMap_sublist {β : Type} {r : α → α → Prop} {as bs : List α}
    (h : List.Forall₂ r as bs) {f : α → Nat → List β}
    (hf : ∀ a b i, r a b → (f a i).Sublist (f b i)) (n : Nat) :
    ((as.zipIdx n).flatMap fun (a, i) => f a i).Sublist
      ((bs.zipIdx n).flatMap fun (b, i) => f b i) := by
  induction h generalizing n with
  | nil => exact .refl _
  | cons hab _ ih =>
    rw [List.zipIdx_cons, List.zipIdx_cons, List.flatMap_cons, List.flatMap_cons]
    exact (hf _ _ n hab).append (ih (n + 1))

/-- Blocks are checked one by one, each with its place. -/
theorem elems_lasts {r : α → α → Prop} {x y : Field (List α)} (h : x.Settles (List.Forall₂ r) y)
    (f : α → Nat → List Diagnostic) (hf : ∀ a b i, r a b → (f a i).Sublist (f b i)) :
    (x.elems.zipIdx.flatMap fun (a, i) => f a i).Sublist
      (y.elems.zipIdx.flatMap fun (b, i) => f b i) := by
  cases h with
  | unknown => exact List.nil_sublist _
  | null => exact .refl _
  | known h => exact zipIdx_flatMap_sublist h hf 0

theorem eachOneOf_lasts (path : Path) {xs ys : StringList}
    (h : xs.Settles (List.Forall₂ (Field.Settles Eq)) ys) (allowed : List String) :
    (eachOneOf path xs allowed).Sublist (eachOneOf path ys allowed) :=
  elems_lasts h (fun value i => oneOf (path.item i) value allowed)
    fun _ _ i hab => oneOf_lasts (path.item i) hab allowed

theorem known_lasts {r : α → α → Prop} (f : α → List Diagnostic)
    (hf : ∀ a b, r a b → (f a).Sublist (f b)) {x y : Field α} :
    x.Settles r y →
      (match x with | .known a => f a | _ => []).Sublist
        (match y with | .known b => f b | _ => []) := by
  intro h
  cases h with
  | unknown => exact List.nil_sublist _
  | null => exact .refl _
  | known h => exact hf _ _ h

/-- What a check reports is reported of all that the configuration can turn into. So a configuration
that is rejected has no way to turn out right. -/
def Lasting {C : Type} [Exchange C] (check : C → List Diagnostic) : Prop :=
  ∀ c c', (toValue c).TurnsInto (toValue c') →
    (check c).Sublist (check c') ∧ (check c ≠ [] → check c' ≠ [])

theorem Lasting.of_sublist {C : Type} [Exchange C] {check : C → List Diagnostic}
    (h : ∀ c c', (toValue c).TurnsInto (toValue c') → (check c).Sublist (check c')) :
    Lasting check := by
  intro c c' hc
  refine ⟨h c c' hc, fun hne hnil => hne ?_⟩
  have hsublist := h c c' hc
  rw [hnil] at hsublist
  exact List.sublist_nil.mp hsublist

theorem Lasting.silent {C : Type} [Exchange C] : Lasting fun _ : C => [] :=
  .of_sublist fun _ _ _ => .refl _

theorem Lasting.of_known {C : Type} [Exchange C] [Exchange.Definite C] {check : C → List Diagnostic}
    (h : Lasting check) :
    Lasting fun c : Field C => match c with | .known c => check c | _ => [] :=
  .of_sublist fun _ _ hc =>
    known_lasts check (fun _ _ hab => (h _ _ hab).1) (Field.settles_of_turnsInto hc)

end Validation

open Validation (Lasting)

namespace DataLabel

theorem validateRule_lasts (path : Path) {r r' : RuleState}
    (h : (toValue r).TurnsInto (toValue r')) :
    (validateRule path r).Sublist (validateRule path r') :=
  (Validation.oneOf_lasts _ (Field.settles_text (h.attribute "rule_type" rfl rfl)) _).append
    (Validation.oneOf_lasts _ (Field.settles_text (h.attribute "rule_status" rfl rfl)) _)

theorem validate_lasting : Lasting validate :=
  .of_sublist fun _ _ h =>
    Validation.elems_lasts (Field.settles_list (h.attribute "classification_rule" rfl rfl))
      (fun r i => validateRule ((Path.of "classification_rule").item i) r)
      fun _ _ _ hab => validateRule_lasts _ hab

theorem lookup_lasting : Lasting lookup.validate :=
  .of_sublist fun _ _ h =>
    Validation.oneOf_lasts _ (Field.settles_text (h.attribute "type" rfl rfl)) _

end DataLabel

namespace Logging

theorem validateSplunk_lasts (path : Path) {b b' : SplunkState}
    (h : (toValue b).TurnsInto (toValue b')) :
    (Validation.port path b.hecPort).Sublist (Validation.port path b'.hecPort) :=
  Validation.port_lasts path (Field.settles_number (h.attribute "hec_port" rfl rfl))

theorem validate_lasting : Lasting validate := by
  refine .of_sublist fun s s' h => ?_
  have hcloud := Field.settles_list (x := s.cloudWatch) (h.attribute "cloud_watch" rfl rfl)
  have hdatadog := Field.settles_list (x := s.datadog) (h.attribute "datadog" rfl rfl)
  have hsplunk := Field.settles_list (x := s.splunk) (h.attribute "splunk" rfl rfl)
  refine List.Sublist.append (Validation.exactlyOneOf_lasts _ ?_) (Validation.elems_lasts hsplunk
    (fun b i => Validation.port (((Path.of "splunk").item i).attr "hec_port") b.hecPort)
    fun _ _ _ hab => validateSplunk_lasts _ hab)
  exact .cons ⟨rfl, Validation.presence_settles hcloud⟩
    (.cons ⟨rfl, Validation.presence_settles hdatadog⟩
      (.cons ⟨rfl, Validation.presence_settles hsplunk⟩ .nil))

end Logging

namespace Repository

theorem addressParts_sublist {n n' : NodeState} (given : {α : Type} → Field α → Bool)
    (hhost : given n.host → given n'.host) (hport : given n.port → given n'.port) :
    (addressParts n given).Sublist (addressParts n' given) := by
  refine List.Sublist.append ?_ ?_
  · split_ifs with h h'
    · exact .refl _
    · exact absurd (hhost h) h'
    · exact List.nil_sublist _
    · exact .refl _
  · split_ifs with h h'
    · exact .refl _
    · exact absurd (hport h) h'
    · exact List.nil_sublist _
    · exact .refl _

theorem validateNode_lasts (path : Path) {n n' : NodeState}
    (h : (toValue n).TurnsInto (toValue n')) :
    (validateNode path n).Sublist (validateNode path n') := by
  have hhost := Field.settles_text (x := n.host) (h.attribute "host" rfl rfl)
  have hport := Field.settles_number (x := n.port) (h.attribute "port" rfl rfl)
  have hdynamic := Field.settles_flag (x := n.dynamic) (h.attribute "dynamic" rfl rfl)
  have hknown := addressParts_sublist Field.isKnown hhost.isKnown hport.isKnown
  have hnull := addressParts_sublist Field.isNull hhost.isNull hport.isNull
  refine (Validation.port_lasts _ hport).append ?_
  generalize n.dynamic = x, n'.dynamic = y at hdynamic ⊢
  cases hdynamic with
  | unknown => exact List.nil_sublist _
  | null => exact hnull.map _
  | @known b _ h =>
    cases h
    cases b with
    | true => exact hknown.map _
    | false => exact hnull.map _

theorem validateMongo_lasts {type type' : Field String} (htype : type.Settles Eq type')
    {m m' : MongoState} (h : (toValue m).TurnsInto (toValue m')) :
    (validateMongo type m).Sublist (validateMongo type' m') := by
  have hserver := Field.settles_text (x := m.serverType) (h.attribute "server_type" rfl rfl)
  have hname := Field.settles_text (x := m.replicaSetName) (h.attribute "replica_set_name" rfl rfl)
  refine (List.Sublist.append ?_ (Validation.oneOf_lasts _ hserver _)).append ?_
  · cases htype with
    | unknown => exact List.nil_sublist _
    | null => exact .refl _
    | known h =>
      cases h
      exact .refl _
  · split_ifs with hm hm'
    · exact .refl _
    · refine absurd ⟨?_, hname.isNull hm.2⟩ hm'
      generalize m.serverType = x, m'.serverType = y at hserver hm
      cases hserver with
      | unknown | null => cases hm.1
      | known h => exact h ▸ hm.1
    · exact List.nil_sublist _
    · exact .refl _

theorem validate_lasting : Lasting validate := by
  refine .of_sublist fun s s' h => ?_
  have htype := Field.settles_text (x := s.type) (h.attribute "type" rfl rfl)
  have hnodes := Field.settles_list (x := s.nodes) (h.attribute "repo_node" rfl rfl)
  have hmongo := Field.settles_list (x := s.mongo) (h.attribute "mongodb_settings" rfl rfl)
  refine List.Sublist.append (List.Sublist.append (List.Sublist.append
    (Validation.oneOf_lasts _ htype _) (Validation.notEmpty_lasts _ hnodes))
    (Validation.elems_lasts hnodes (fun n i => validateNode ((Path.of "repo_node").item i) n)
      fun _ _ _ hab => validateNode_lasts _ hab)) ?_
  generalize s.mongo = x, s'.mongo = y at hmongo ⊢
  cases hmongo with
  | unknown => exact List.nil_sublist _
  | null => exact .refl _
  | known h =>
    cases h with
    | nil => exact .refl _
    | cons hab _ =>
      simp only [Field.first_known, List.head?_cons, Option.toList_some, List.flatMap_singleton]
      exact validateMongo_lasts htype hab

theorem lookup_lasting : Lasting lookup.validate :=
  .of_sublist fun _ _ h =>
    Validation.oneOf_lasts _ (Field.settles_text (h.attribute "type" rfl rfl)) _

end Repository

namespace Binding

theorem validateReference_lasts (path : Path) {r r' : ReferenceState}
    (h : (toValue r).TurnsInto (toValue r')) :
    (validateReference path r).Sublist (validateReference path r') := by
  have hindex := Field.settles_number (x := r.nodeIndex) (h.attribute "node_index" rfl rfl)
  unfold validateReference
  generalize r.nodeIndex = x, r'.nodeIndex = y at hindex ⊢
  cases hindex with
  | unknown => exact List.nil_sublist _
  | null => exact .refl _
  | known h =>
    cases h
    exact .refl _

theorem validate_lasting : Lasting validate := by
  refine .of_sublist fun s s' h => ?_
  have hreferences :=
    Field.settles_list (x := s.references) (h.attribute "listener_binding" rfl rfl)
  exact (Validation.notEmpty_lasts _ hreferences).append (Validation.elems_lasts hreferences
    (fun r i => validateReference ((Path.of "listener_binding").item i) r)
    fun _ _ _ hab => validateReference_lasts _ hab)

end Binding

theorem AuthSettings.validate_lasting : Lasting AuthSettings.validate :=
  .of_sublist fun _ _ h =>
    ((Validation.oneOf_lasts _ (Field.settles_text (h.attribute "client_tls" rfl rfl)) _).append
      (Validation.oneOf_lasts _ (Field.settles_text (h.attribute "repo_tls" rfl rfl)) _)).append
      (Validation.oneOf_lasts _ (Field.settles_text (h.attribute "auth_type" rfl rfl)) _)

namespace UserAccount

instance : Exchange.Definite AuthSchemeState := .of_object _ fun _ => rfl

theorem validate_lasting : Lasting validate := by
  refine .of_sublist fun s s' h => ?_
  have hscheme := Field.settles_of_turnsInto (x := s.authScheme) (h.attribute "auth_scheme" rfl rfl)
  unfold validate
  generalize s.authScheme = x, s'.authScheme = y at hscheme ⊢
  cases hscheme with
  | unknown => exact List.nil_sublist _
  | null => exact .refl _
  | @known a a' h =>
    have henvironment := Field.settles_list (x := a.environmentVariable)
      (h.attribute "environment_variable" rfl rfl)
    have hkubernetes := Field.settles_list (x := a.kubernetesSecret)
      (h.attribute "kubernetes_secret" rfl rfl)
    have haws := Field.settles_list (x := a.awsSecret) (h.attribute "aws_secrets_manager" rfl rfl)
    have hvault := Field.settles_list (x := a.vault) (h.attribute "hashicorp_vault" rfl rfl)
    exact Validation.exactlyOneOf_lasts _
      (.cons ⟨rfl, Validation.presence_settles henvironment⟩
        (.cons ⟨rfl, Validation.presence_settles hkubernetes⟩
          (.cons ⟨rfl, Validation.presence_settles haws⟩
            (.cons ⟨rfl, Validation.presence_settles hvault⟩ .nil))))

end UserAccount

theorem ServiceAccount.validate_lasting : Lasting ServiceAccount.validate :=
  .of_sublist fun _ _ h =>
    Validation.notEmpty_lasts _ (Field.settles_texts (h.attribute "permission_ids" rfl rfl))

theorem Sidecar.validate_lasting : Lasting Sidecar.validate :=
  .of_sublist fun _ _ h =>
    Validation.oneOf_lasts _ (Field.settles_text (h.attribute "deployment_method" rfl rfl)) _

namespace Listener

instance : Exchange.Definite AddressState := .of_object _ fun _ => rfl

theorem validate_lasting : Lasting validate := by
  refine .of_sublist fun s s' h => ?_
  have htypes := Field.settles_texts (x := s.repoTypes) (h.attribute "repo_types" rfl rfl)
  have haddress := Field.settles_of_turnsInto (x := s.address)
    (h.attribute "network_address" rfl rfl)
  refine List.Sublist.append ((Validation.notEmpty_lasts _ htypes).append
    (Validation.eachOneOf_lasts _ htypes _)) ?_
  generalize s.address = x, s'.address = y at haddress ⊢
  cases haddress with
  | unknown => exact List.nil_sublist _
  | null => exact .refl _
  | known h =>
    exact Validation.port_lasts _ (Field.settles_number (h.attribute "port" rfl rfl))

theorem lookup_lasting : Lasting lookup.validate :=
  .of_sublist fun _ _ h =>
    (Validation.oneOf_lasts _ (Field.settles_text (h.attribute "repo_type" rfl rfl)) _).append
      (Validation.port_lasts _ (Field.settles_number (h.attribute "port" rfl rfl)))

end Listener

namespace ProviderBlock

theorem isMissing_lasts {b b' : ProviderBlock} (h : (toValue b).TurnsInto (toValue b'))
    (env : Environment) (setting : Setting) :
    b.isMissing env setting → b'.isMissing env setting := by
  have hsettles : (b.get setting).Settles Eq (b'.get setting) := by
    cases setting with
    | clientId => exact Field.settles_text (h.attribute "client_id" rfl rfl)
    | clientSecret => exact Field.settles_text (h.attribute "client_secret" rfl rfl)
    | controlPlane => exact Field.settles_text (h.attribute "control_plane" rfl rfl)
  simp only [isMissing, Bool.and_eq_true]
  exact And.imp_left hsettles.isNull

theorem validate_lasting (env : Environment) : Lasting fun b : ProviderBlock => b.validate env :=
  .of_sublist fun _ _ h =>
    (List.monotone_filter_right required (isMissing_lasts h env)).map missingDiagnostic

end ProviderBlock

namespace ResourceKind

instance (kind : ResourceKind) : Exchange.Definite kind.State := by
  cases kind <;> exact .of_object _ fun _ => rfl

theorem validate_lasting : (kind : ResourceKind) → Lasting kind.resource.validate
  | .dataLabel => DataLabel.validate_lasting
  | .logging => Logging.validate_lasting
  | .repository => Repository.validate_lasting
  | .binding => Binding.validate_lasting
  | .authSettings => AuthSettings.validate_lasting
  | .userAccount => UserAccount.validate_lasting
  | .serviceAccount => ServiceAccount.validate_lasting
  | .sidecar => Sidecar.validate_lasting
  | .listener => Listener.validate_lasting
  | .datadog | .microsoftTeams | .slack | .policy | .sidecarCredentials => .silent

end ResourceKind

namespace DataSourceKind

instance (kind : DataSourceKind) : Exchange.Definite kind.State := by
  cases kind <;> exact .of_object _ fun _ => rfl

theorem validate_lasting : (kind : DataSourceKind) → Lasting kind.source.validate
  | .dataLabel => DataLabel.lookup_lasting
  | .repository => Repository.lookup_lasting
  | .listener => Listener.lookup_lasting
  | .samlCertificate | .boundPorts | .sidecarId | .systemInfo => .silent

end DataSourceKind

/-- No check takes back what it reports, whatever turns out of what is not known yet. -/
theorem validation_lasting :
    (∀ kind : ResourceKind, Lasting kind.resource.validateConfig) ∧
    (∀ kind : DataSourceKind, Lasting kind.source.validateConfig) ∧
    ∀ env : Environment, Lasting fun b : ProviderBlock => b.validate env := by
  refine ⟨fun kind => ?_, fun kind => ?_, ProviderBlock.validate_lasting⟩
  · exact kind.validate_lasting.of_known
  · exact kind.validate_lasting.of_known

end ControlPlane
