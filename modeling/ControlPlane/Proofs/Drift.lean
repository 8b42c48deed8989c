import ControlPlane.Proofs.Codec.RoundTrip
import ControlPlane.Proofs.Operation.Ends
import ControlPlane.Proofs.Reads
import ControlPlane.Proofs.Wire

/-!
Objects that are read back as they were sent. The states that a read leaves unchanged are told apart
attribute by attribute; any other state changes each time that it is read.
-/
namespace ControlPlane

namespace Wire
variable {S W : Type} {r : Resource S}

theorem exists_of_body (w : Wire r W) {op : Operation S}
    (hbody : op.body = some fun s => (w.request s).map w.encode) {s : S} {payload : Http.Payload}
    (h : op.payload s = .ok payload) : ∃ a, w.request s = .ok a ∧ payload = .json (w.encode a) := by
  simp only [Operation.payload, hbody] at h
  obtain ⟨_, hj, rfl⟩ := map_eq_ok_iff.mp h
  obtain ⟨a, ha, rfl⟩ := map_eq_ok_iff.mp hj
  exact ⟨a, ha, rfl⟩

/-- A reply to a read that answers with what an update sends is always taken in, and the steady
states are the ones that it leaves as they are. -/
def KeepsExactly (w : Wire r W) (answer : W → Json) (steady : S → Prop) : Prop :=
  ∀ s base url payload, w.update.request s base = .ok (url, payload) →
    ∃ a, w.request s = .ok a ∧ payload = .json (w.encode a) ∧
      ∀ (k : Connection) (kept : Field Unit) (session session' : Session) (reply : List UInt8)
        (told : Json), k.client.baseUrl = base →
        k.send .get url [] .none session = .ok reply session' → Json.parse? reply = some told →
        (answer a).Same told →
        ∃ s', r.readObject (some k) ⟨.known s, kept⟩ session = .ok ⟨.known s', kept⟩ session' ∧
          (s' = s ↔ steady s)

theorem keepsExactly (w : Wire r W) {answer : W → Json} {steady : S → Prop} {back : W → W}
    (hmethod : r.read.method = .get) (hbody : r.read.body = none)
    (hurl : r.read.url = w.update.url) (hreads : Json.ReadsBack answer w.decode? back)
    (hsteady : ∀ s a, w.request s = .ok a → (w.refresh (back a) s = s ↔ steady s)) :
    w.KeepsExactly answer steady := by
  intro s base url payload hrequest
  obtain ⟨hupdate, hpayload⟩ := Operation.request_eq_ok_iff.mp hrequest
  obtain ⟨a, ha, rfl⟩ := w.exists_of_body w.sends hpayload
  refine ⟨a, ha, rfl, ?_⟩
  intro k kept session session' reply told hbase hsend hparse hsame
  have hread : r.read.url s k.client.baseUrl = .ok url := by
    rw [hurl, hbase]
    exact hupdate
  have hempty : r.read.payload s = .ok .none := by
    simp only [Operation.payload, hbody]
  rw [← hmethod] at hsend
  exact ⟨w.refresh (back a) s, Resource.readObject_of_told w.reads hread hempty hsend
    (Option.bind_eq_some_iff.mpr ⟨told, hparse, hreads.reads a hsame⟩), hsteady s a ha⟩

end Wire

namespace UserAccount

/-- A scheme that is read back as it is. Each place is a list of one block or none. -/
@[mk_iff]
structure AuthSchemeState.Steady (a : AuthSchemeState) : Prop where
  environmentVariable : a.environmentVariable.KnownWith fun es => es.length ≤ 1
  kubernetesSecret : a.kubernetesSecret.KnownWith fun ks => ks.length ≤ 1
  awsSecret : a.awsSecret.KnownWith fun ss => ss.length ≤ 1
  vault : a.vault.KnownWith fun vs => vs.length ≤ 1 ∧ ∀ v ∈ vs, v.isDynamic.NullOr fun _ => True

@[mk_iff]
structure State.Steady (s : State) : Prop where
  authDatabaseName : s.authDatabaseName.NullOr (· ≠ "")
  authScheme : s.authScheme.KnownWith AuthSchemeState.Steady

/-- The block that is read back in the place of one that was sent. -/
def VaultState.readBack (v : VaultState) : VaultState :=
  { v with isDynamic := .ofFlag (v.isDynamic.getD false) v.isDynamic }

theorem VaultState.readBack_eq_self_iff (v : VaultState) :
    v.readBack = v ↔ v.isDynamic.NullOr fun _ => True := by
  obtain ⟨path, isDynamic⟩ := v
  simp only [readBack, mk.injEq, true_and, Field.ofFlag_getD_eq_self]

theorem EnvironmentVariable.toState_of_ofState {b : EnvironmentVariableState}
    {a : EnvironmentVariable} (h : ofState b = .ok a) :
    (⟨.known a.variableName⟩ : EnvironmentVariableState) = b := by
  obtain ⟨name, hname, h⟩ := bind_eq_ok_iff.mp h
  cases h
  rw [← Field.require_eq_ok_iff.mp hname]

theorem KubernetesSecret.toState_of_ofState {b : KubernetesSecretState} {a : KubernetesSecret}
    (h : ofState b = .ok a) :
    (⟨.known a.secretName, .known a.secretKey⟩ : KubernetesSecretState) = b := by
  obtain ⟨name, hname, h⟩ := bind_eq_ok_iff.mp h
  obtain ⟨key, hkey, h⟩ := bind_eq_ok_iff.mp h
  cases h
  rw [← Field.require_eq_ok_iff.mp hname, ← Field.require_eq_ok_iff.mp hkey]

theorem AwsSecret.toState_of_ofState {b : AwsSecretState} {a : AwsSecret}
    (h : ofState b = .ok a) : (⟨.known a.secretArn⟩ : AwsSecretState) = b := by
  obtain ⟨arn, harn, h⟩ := bind_eq_ok_iff.mp h
  cases h
  rw [← Field.require_eq_ok_iff.mp harn]

theorem Vault.toState_of_ofState {b : VaultState} {a : Vault} (h : ofState b = .ok a)
    (prior : Field Bool) : a.toState prior = ⟨b.path, .ofFlag (b.isDynamic.getD false) prior⟩ := by
  obtain ⟨path, hpath, h⟩ := bind_eq_ok_iff.mp h
  cases h
  rw [Field.require_eq_ok_iff.mp hpath]
  rfl

/-- The flag is read back in view of the block that it comes from. -/
theorem AuthScheme.toState_eq_self_iff {s : AuthSchemeState} {a : AuthScheme}
    (h : ofState s = .ok a) :
    a.toState ((s.vault.first.map (·.isDynamic)).getD .null) = s ↔ s.Steady := by
  obtain ⟨environmentVariable, he, h⟩ := bind_eq_ok_iff.mp h
  obtain ⟨kubernetesSecret, hk, h⟩ := bind_eq_ok_iff.mp h
  obtain ⟨awsSecret, hs, h⟩ := bind_eq_ok_iff.mp h
  obtain ⟨vault, hv, h⟩ := bind_eq_ok_iff.mp h
  cases h
  have he := map_eq_of_mapM_option (h := id)
    (fun _ _ => EnvironmentVariable.toState_of_ofState) he
  have hk := map_eq_of_mapM_option (h := id)
    (fun _ _ => KubernetesSecret.toState_of_ofState) hk
  have hs := map_eq_of_mapM_option (h := id) (fun _ _ => AwsSecret.toState_of_ofState) hs
  have hv := map_eq_of_mapM_option (fun _ _ h => Vault.toState_of_ofState h
    ((s.vault.first.map (·.isDynamic)).getD .null)) hv
  have hback : s.vault.first.map (fun b => (⟨b.path, .ofFlag (b.isDynamic.getD false)
      ((s.vault.first.map (·.isDynamic)).getD .null)⟩ : VaultState)) =
        s.vault.first.map VaultState.readBack := by
    cases s.vault.first <;> rfl
  obtain ⟨es, ks, ss, vs⟩ := s
  simp only at he hk hs hv hback
  simp only [toState, AuthSchemeState.mk.injEq, he, hk, hs, hv, hback,
    Field.single_map_first_eq_self, VaultState.readBack_eq_self_iff, id_eq, implies_true, and_true,
    AuthSchemeState.steady_iff]

theorem refresh_eq_self_iff {s : State} {u : UserAccount} (h : ofState s = .ok u) :
    refresh u s = s ↔ s.Steady := by
  obtain ⟨scheme, hscheme, h⟩ := bind_eq_ok_iff.mp h
  obtain ⟨authScheme, ha, h⟩ := bind_eq_ok_iff.mp h
  obtain ⟨name, hname, h⟩ := bind_eq_ok_iff.mp h
  cases h
  have hback := AuthScheme.toState_eq_self_iff ha
  obtain ⟨id, repositoryId, userAccountId, _, authDatabaseName, _⟩ := s
  obtain rfl := Field.require_eq_ok_iff.mp hscheme
  obtain rfl := Field.require_eq_ok_iff.mp hname
  simp only [refresh, State.mk.injEq, State.priorDynamic, Field.known?_known, Option.bind_some,
    Field.known.injEq, true_and, Field.ofText_text_eq_self, hback, State.steady_iff,
    Field.knownWith_known]

end UserAccount

namespace Listener

@[mk_iff]
structure State.Steady (s : State) : Prop where
  repoTypes : s.repoTypes.NullOr fun vs => ∀ v ∈ vs, v.isKnown
  host : s.address.KnownWith fun a => a.host.NullOr (· ≠ "")

theorem refresh_eq_self_iff {s : State} {l : Listener} (h : ofState s = .ok l) :
    refresh l s = s ↔ s.Steady := by
  obtain ⟨address, haddress, h⟩ := bind_eq_ok_iff.mp h
  obtain ⟨port, hport, h⟩ := bind_eq_ok_iff.mp h
  cases h
  obtain ⟨id, sidecarId, listenerId, repoTypes, _⟩ := s
  obtain ⟨host, _⟩ := address
  obtain rfl := Field.require_eq_ok_iff.mp haddress
  obtain rfl := Field.require_eq_ok_iff.mp hport
  simp only [refresh, State.mk.injEq, Field.known.injEq, AddressState.mk.injEq, true_and, and_true,
    Field.ofStrings_strings_eq_self, Field.ofText_text_eq_self, State.steady_iff,
    Field.knownWith_known]

end Listener

namespace Binding

@[mk_iff]
structure State.Steady (s : State) : Prop where
  enabled : s.enabled.isKnown
  references : s.references.KnownWith fun rs => ∀ r ∈ rs, r.nodeIndex.isKnown

/-- The reference that is read back in the place of one that was sent. -/
def ReferenceState.readBack (r : ReferenceState) : ReferenceState :=
  { r with nodeIndex := .known (r.nodeIndex.getD 0) }

theorem ReferenceState.readBack_eq_self_iff (r : ReferenceState) :
    r.readBack = r ↔ r.nodeIndex.isKnown := by
  obtain ⟨listenerId, nodeIndex⟩ := r
  simp only [readBack, mk.injEq, true_and, Field.known_getD_eq_self]

theorem Reference.toState_of_ofState {r : ReferenceState} {a : Reference} (h : ofState r = .ok a) :
    a.toState = r.readBack := by
  obtain ⟨listenerId, hlistener, h⟩ := bind_eq_ok_iff.mp h
  cases h
  simp only [toState, ReferenceState.readBack, Field.require_eq_ok_iff.mp hlistener]

theorem refresh_eq_self_iff {s : State} {b : Binding} (h : ofState s = .ok b) :
    refresh b s = s ↔ s.Steady := by
  obtain ⟨references, hreferences, h⟩ := bind_eq_ok_iff.mp h
  obtain ⟨repositoryId, hrepository, h⟩ := bind_eq_ok_iff.mp h
  cases h
  have hback := map_eq_of_mapM_list (fun _ _ => Reference.toState_of_ofState) hreferences
  obtain ⟨id, sidecarId, _, bindingId, enabled, rs⟩ := s
  obtain rfl := Field.require_eq_ok_iff.mp hrepository
  simp only at hback
  simp only [refresh, State.mk.injEq, true_and, hback, Field.known_getD_eq_self,
    Field.known_map_elems_eq_self, ReferenceState.readBack_eq_self_iff, State.steady_iff]

end Binding

namespace DataLabel

@[mk_iff]
structure RuleState.Steady (r : RuleState) : Prop where
  code : r.code.NullOr (· ≠ "")
  status : r.status.isKnown

@[mk_iff]
structure State.Steady (s : State) : Prop where
  id : s.id = s.name
  description : s.description.NullOr (· ≠ "")
  tags : s.tags.NullOr fun vs => ∀ v ∈ vs, v.isKnown
  rule : s.rule.KnownWith fun rs => rs.length ≤ 1 ∧ ∀ r ∈ rs, r.Steady

/-- The rule that is read back in the place of one that was sent. -/
def RuleState.readBack (r : RuleState) : RuleState where
  type := r.type
  code := .ofText r.code.text
  status := .known (r.status.getD "")

theorem RuleState.readBack_eq_self_iff (r : RuleState) : r.readBack = r ↔ r.Steady := by
  obtain ⟨type, code, status⟩ := r
  simp only [readBack, mk.injEq, true_and, Field.ofText_text_eq_self, Field.known_getD_eq_self,
    steady_iff]

theorem Rule.toState_of_ofState {r : RuleState} {a : Rule} (h : ofState r = .ok a) :
    a.toState = r.readBack := by
  obtain ⟨type, htype, h⟩ := bind_eq_ok_iff.mp h
  cases h
  simp only [toState, RuleState.readBack, Field.require_eq_ok_iff.mp htype, Field.text]

theorem refresh_eq_self_iff {s : State} {d : DataLabel} (h : ofState s = .ok d) :
    refresh d s = s ↔ s.Steady := by
  obtain ⟨rule, hrule, h⟩ := bind_eq_ok_iff.mp h
  cases h
  have hback := map_eq_of_mapM_option (fun _ _ => Rule.toState_of_ofState) hrule
  obtain ⟨id, name, description, tags, rs⟩ := s
  simp only at hback
  simp only [refresh, State.mk.injEq, true_and, Option.getD_some, hback, Field.ofText_text_eq_self,
    Field.ofStrings_strings_eq_self, Field.single_map_first_eq_self,
    RuleState.readBack_eq_self_iff, State.steady_iff]
  rw [eq_comm]

end DataLabel

namespace AuthSettings

@[mk_iff]
structure State.Steady (s : State) : Prop where
  id : s.id = s.repositoryId
  allowNativeAuth : s.allowNativeAuth.isKnown

theorem refresh_eq_self_iff {s : State} {a : AuthSettings} (h : ofState s = .ok a) :
    refresh a s = s ↔ s.Steady := by
  obtain ⟨clientTls, hclient, h⟩ := bind_eq_ok_iff.mp h
  obtain ⟨repoTls, hrepo, h⟩ := bind_eq_ok_iff.mp h
  obtain ⟨authType, htype, h⟩ := bind_eq_ok_iff.mp h
  cases h
  obtain ⟨id, repositoryId, allowNativeAuth, _, _, _⟩ := s
  obtain rfl := Field.require_eq_ok_iff.mp hclient
  obtain rfl := Field.require_eq_ok_iff.mp hrepo
  obtain rfl := Field.require_eq_ok_iff.mp htype
  simp only [refresh, State.mk.injEq, true_and, and_true, Field.known_getD_eq_self,
    State.steady_iff]
  rw [eq_comm]

end AuthSettings

namespace Policy

@[mk_iff]
structure State.Steady (s : State) : Prop where
  description : s.description.NullOr (· ≠ "")
  enabled : s.enabled.isKnown
  tags : s.tags.NullOr fun vs => ∀ v ∈ vs, v.isKnown
  data : s.data.NullOr fun vs => ∀ v ∈ vs, v.isKnown

theorem refresh_eq_self_iff {s : State} {p : Policy} (h : ofState s = .ok p) :
    refresh p s = s ↔ s.Steady := by
  obtain ⟨name, hname, h⟩ := bind_eq_ok_iff.mp h
  cases h
  obtain ⟨id, _, description, enabled, tags, data⟩ := s
  obtain rfl := Field.require_eq_ok_iff.mp hname
  simp only [refresh, State.mk.injEq, true_and, Field.ofText_text_eq_self,
    Field.known_getD_eq_self, Field.ofStrings_strings_eq_self, State.steady_iff]

end Policy

namespace Sidecar

@[mk_iff]
structure State.Steady (s : State) : Prop where
  labels : s.labels.NullOr fun vs => ∀ v ∈ vs, v.isKnown
  userEndpoint : s.userEndpoint.NullOr (· ≠ "")
  activityLogIntegrationId : s.activityLogIntegrationId.NullOr (· ≠ "")

theorem refresh_eq_self_iff {s : State} {c : Sidecar} (h : ofState s = .ok c) :
    refresh c s = s ↔ s.Steady := by
  obtain ⟨name, hname, h⟩ := bind_eq_ok_iff.mp h
  obtain ⟨method, hmethod, h⟩ := bind_eq_ok_iff.mp h
  cases h
  obtain ⟨id, _, _, labels, userEndpoint, activityLogIntegrationId⟩ := s
  obtain rfl := Field.require_eq_ok_iff.mp hname
  obtain rfl := Field.require_eq_ok_iff.mp hmethod
  simp only [refresh, State.mk.injEq, true_and, Field.ofStrings_strings_eq_self,
    Field.ofText_text_eq_self, State.steady_iff]

end Sidecar

/-- Each resource has its own steady states, after what its replies leave out or fill in. -/
theorem read_of_sent_eq_self_iff_steady :
    UserAccount.wire.KeepsExactly UserAccount.toJson UserAccount.State.Steady ∧
    Listener.wire.KeepsExactly (fun l => .obj [("listenerConfig", l.toJson)])
      Listener.State.Steady ∧
    Binding.wire.KeepsExactly Binding.envelope Binding.State.Steady ∧
    DataLabel.wire.KeepsExactly DataLabel.toJson DataLabel.State.Steady ∧
    AuthSettings.wire.KeepsExactly (fun a => .obj [("authInfo", a.toJson)])
      AuthSettings.State.Steady ∧
    Policy.wire.KeepsExactly Policy.toJson Policy.State.Steady ∧
    Sidecar.wire.KeepsExactly Sidecar.toJson Sidecar.State.Steady :=
  ⟨Wire.keepsExactly _ rfl rfl rfl UserAccount.readsBack fun _ _ =>
      UserAccount.refresh_eq_self_iff,
    Wire.keepsExactly _ rfl rfl rfl
      (Listener.readsBack.only? Listener.ofJson?_unordered (fun _ => rfl) "listenerConfig")
      fun _ _ => Listener.refresh_eq_self_iff,
    Wire.keepsExactly _ rfl rfl rfl Binding.readsBack fun _ _ => Binding.refresh_eq_self_iff,
    Wire.keepsExactly _ rfl rfl rfl DataLabel.readsBack fun _ d h =>
      DataLabel.refresh_eq_self_iff (d := d) h,
    Wire.keepsExactly _ rfl rfl rfl
      (AuthSettings.readsBack.only? AuthSettings.ofJson?_unordered (fun _ => rfl) "authInfo")
      fun _ _ => AuthSettings.refresh_eq_self_iff,
    Wire.keepsExactly _ rfl rfl rfl Policy.readsBack fun _ _ => Policy.refresh_eq_self_iff,
    Wire.keepsExactly _ rfl rfl rfl Sidecar.readsBack fun _ _ => Sidecar.refresh_eq_self_iff⟩

namespace Binding

/-- A binding of one listener, with a flag that is known or left open. -/
def State.bound (enabled : Field Bool) : State :=
  ⟨.known "s1/b1", .known "s1", .known "r1", .known "b1", enabled,
    .known [⟨.known "l1", .known 0⟩]⟩

def boundReply : List UInt8 :=
  Text.utf8 ("\x7b\"binding\":\x7b\"enabled\":true,\"repoId\":\"r1\"," ++
    "\"listenerBindings\":[\x7b\"listenerId\":\"l1\",\"nodeIndex\":0\x7d]\x7d\x7d").toList

/-- A control plane that tells of the binding, with its flag before its repository. -/
def boundTo : Connection where
  client := .of "http://cp" "a" "b"
  server _ _ := .complete 200 boundReply

set_option maxRecDepth 20000 in
/-- The default of a flag that is left open is sent, and written into the state by the next read. -/
theorem read_of_sent_bound : ∃ session,
    resource.readObject (some boundTo) ⟨.known (.bound (.known true)), .null⟩
      { token := some ⟨"t", none⟩ } = .ok ⟨.known (.bound (.known true)), .null⟩ session ∧
    ∃ s, resource.readObject (some boundTo) ⟨.known (.bound .null), .null⟩
      { token := some ⟨"t", none⟩ } = .ok ⟨.known s, .null⟩ session ∧ s ≠ .bound .null := by
  have htold : Json.parse? boundReply = some (.obj [("binding", .obj [("enabled", .bool true),
      ("repoId", .str "r1"), ("listenerBindings", .arr [.obj
        [("listenerId", .str "l1"), ("nodeIndex", .int 0)]])])]) := by
    cbv
  have hread (enabled : Field Bool) (h : enabled.getD true = true) :
      ∃ s, resource.readObject (some boundTo) ⟨.known (.bound enabled), .null⟩
          { token := some ⟨"t", none⟩ } =
        .ok ⟨.known s, .null⟩ ⟨[⟨.get, "/v1/sidecars/s1/bindings/b1", some "Bearer t", .none⟩],
          some ⟨"t", none⟩⟩ ∧ (s = .bound enabled ↔ (State.bound enabled).Steady) := by
    have hrequest : wire.update.request (.bound enabled) "http://cp" =
        .ok ("http://cp/v1/sidecars/s1/bindings/b1", .json (.obj [("binding", .obj
          [("repoId", .str "r1"), ("enabled", .bool true), ("listenerBindings", .arr [.obj
            [("listenerId", .str "l1"), ("nodeIndex", .int 0)]])])])) := by
      rw [← h]
      rfl
    obtain ⟨a, -, hsent, hread⟩ :=
      read_of_sent_eq_self_iff_steady.2.2.1 (.bound enabled) _ _ _ hrequest
    have hsame := Json.Same.single "binding" (.of_perm (.swap ("enabled", .bool true)
      ("repoId", .str "r1") [("listenerBindings", .arr [.obj
        [("listenerId", .str "l1"), ("nodeIndex", .int 0)]])]))
    rw [Http.Payload.json.inj hsent] at hsame
    exact hread boundTo .null { token := some ⟨"t", none⟩ } _ _ _ rfl rfl htold hsame
  have hsteady : (State.bound (.known true)).Steady := by
    refine ⟨rfl, ?_⟩
    intro r hr
    obtain rfl := List.mem_singleton.mp hr
    rfl
  obtain ⟨s, hs, hiff⟩ := hread (.known true) rfl
  obtain ⟨s', hs', hiff'⟩ := hread .null rfl
  rw [hiff.mpr hsteady] at hs
  refine ⟨_, hs, s', hs', ?_⟩
  intro h
  exact absurd (hiff'.mp h).enabled (by decide)

end Binding
end ControlPlane
