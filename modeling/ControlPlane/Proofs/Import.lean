import ControlPlane.Proofs.Creation
import ControlPlane.Proofs.Drift
import ControlPlane.Proofs.Upsert.States

/-!
Objects that are imported. An import knows an object by its ID alone, and the first read finds all
else out again. What is left open by the import makes no difference to what is read back for a
canonical state.
-/
namespace ControlPlane

/-- Only an empty list in the state tells two empty lists of strings apart. -/
theorem Field.ofStrings_of_ne {prior : StringList} (h : prior ≠ .known []) (vs : List String) :
    ofStrings vs prior = ofStrings vs .null := by
  simp [ofStrings, h]

/-- A flag that is read back as null or as true is read back so in view of any state. -/
theorem Field.ofFlag_of_nullOr {b : Bool} {prior : Field Bool}
    (h : (ofFlag b prior).NullOr (· = true)) : ofFlag b .null = ofFlag b prior := by
  cases b with
  | true => rfl
  | false => cases prior <;> simp [ofFlag, isKnown] at h ⊢

namespace Identity
variable {S : Type} {id parent part : S → Field String} {path : String → String → String} {s : S}

/-- An ID of several parts can be taken apart again. -/
def Separable (i : Identity S) (s : S) : Prop :=
  2 ≤ (i.parts s).length → ∀ x ∈ i.parts s, x.KnownWith ComposedId.IsPart

theorem Coherent.exists_parsePair (h : (composed id parent part path).Coherent s)
    (hs : (composed id parent part path).Separable s) :
    ∃ a b, id s = .known ("/".intercalate [a, b]) ∧ parent s = .known a ∧ part s = .known b ∧
      ComposedId.parsePair ("/".intercalate [a, b]) = .ok (a, b) := by
  obtain ⟨ps, hparts, hid⟩ := h
  obtain ⟨a, b, rfl, ha, hb⟩ := pair_eq_map_known.mp hparts
  have hisPart := hs (le_refl 2)
  simp only [composed, List.forall_mem_cons, ha, hb, Field.knownWith_known] at hisPart
  exact ⟨a, b, hid, ha, hb, ComposedId.parsePair_intercalate hisPart.1 hisPart.2.1⟩

/-- A part that is still unknown cannot be told apart. -/
theorem not_separable_of_unknown (h : part s = .unknown) :
    ¬ (composed id parent part path).Separable s := by
  intro hs
  have hpart := hs (le_refl 2) (part s) (List.mem_cons_of_mem _ (List.mem_singleton_self _))
  rw [h] at hpart
  exact hpart

end Identity

/-- A reply tells of an object that would be sent as this one. -/
def Wire.Tells {S W : Type} {r : Resource S} (w : Wire r W) (sent : W) (told : Json) : Prop :=
  ∃ a, w.decode? told = some a ∧ w.encode a = w.encode sent

namespace ResourceKind
variable {kind : ResourceKind} {W : Type}

/-- When an object is created from a canonical configuration and its ID can be taken apart, the ID
can be imported. The first read asks for the URL of the object, and a reply that tells of what was
sent rebuilds the state. -/
def Rebuilds (kind : ResourceKind) (w : Wire kind.resource W) (answer : W → Json)
    (canonical : kind.State → Prop) : Prop :=
  ∀ (k : Connection) (config s : kind.State) (kept : Field Unit) (session session' : Session),
    kind.resource.createObject (some k) (kind.resource.planCreate (.known config)) session =
      .ok ⟨.known s, kept⟩ session' → canonical config → kind.identity.Separable s →
    ∃ id imported sent, kind.identity.id s = .known id ∧
      kind.resource.importObject id = .ok ⟨.known imported, .null⟩ ∧
      kind.resource.create.payload
        (kind.resource.markComputed (kind.resource.applyDefaults config)) =
          .ok (.json (w.encode sent)) ∧
      (∀ told, (answer sent).Same told → w.Tells sent told) ∧
      ∀ k : Connection, ∃ url,
        kind.resource.read.request s k.client.baseUrl = .ok (url, .none) ∧
        kind.resource.read.request imported k.client.baseUrl = .ok (url, .none) ∧
        ∀ (kept : Field Unit) (session session' : Session) (reply : List UInt8) (told : Json),
          k.send .get url [] .none session = .ok reply session' →
          Json.parse? reply = some told → w.Tells sent told →
          kind.resource.readObject (some k) ⟨.known imported, kept⟩ session =
            .ok ⟨.known s, kept⟩ session'

/-- What makes an import enough for a reply to rebuild the state. -/
structure Imports (kind : ResourceKind) (w : Wire kind.resource W)
    (canonical : kind.State → Prop) : Prop where
  /-- No ID can be taken apart before it is told. -/
  opens (h : kind.resource.create.response.isSome) (config : kind.State) :
    ¬ kind.identity.Separable (kind.resource.markComputed config)
  finds {config s : kind.State} {sent : W} (hconfig : canonical config)
    (hmarked : kind.resource.markComputed s =
      kind.resource.markComputed (kind.resource.applyDefaults config))
    (hsent : w.request s = .ok sent) (hs : kind.identity.Coherent s)
    (hparts : kind.identity.Separable s) :
    ∃ id imported, kind.identity.id s = .known id ∧
      kind.resource.importState id = .ok imported ∧
      kind.identity.parts imported = kind.identity.parts s ∧ w.refresh sent imported = s

variable {w : Wire kind.resource W} {answer : W → Json} {canonical : kind.State → Prop}

theorem Imports.exists_sent (h : kind.Imports w canonical)
    (hcreate : kind.resource.create.body = some fun s => (w.request s).map w.encode)
    (hrequest : ∀ s, w.request (kind.resource.markComputed s) = w.request s)
    {k : Connection} {config s : kind.State} {kept : Field Unit} {session session' : Session}
    (hrun : kind.resource.createObject (some k) (kind.resource.planCreate (.known config)) session =
      .ok ⟨.known s, kept⟩ session') (hparts : kind.identity.Separable s) :
    ∃ sent, kind.resource.create.payload
        (kind.resource.markComputed (kind.resource.applyDefaults config)) =
          .ok (.json (w.encode sent)) ∧
      kind.resource.markComputed s =
        kind.resource.markComputed (kind.resource.applyDefaults config) ∧
      w.request s = .ok sent ∧ kind.identity.Coherent s := by
  obtain ⟨_, planned, s₁, -, hplanned, happlies, hobject⟩ :=
    (Resource.createObject_eq_ok_iff kind.create_onMissing).mp hrun
  obtain rfl := Field.known.inj (Managed.mk.inj hobject).1
  obtain rfl := Field.known.inj hplanned
  obtain ⟨url, payload, reply, hurl, hpayload, -, habsorb⟩ := happlies
  obtain ⟨sent, hsent, rfl⟩ := w.exists_of_body hcreate hpayload
  have hmarked := markComputed_of_absorb habsorb
  have htold : kind.Told reply := by
    intro hresponse hblank
    rw [Operation.absorb_of_blank hblank] at habsorb
    cases habsorb
    exact h.opens hresponse _ hparts
  obtain ⟨j, hw⟩ := exists_writes_of_told htold habsorb
  refine ⟨sent, hpayload, hmarked, ?_, kind.identity_lawful.creates hurl hw⟩
  rw [← hrequest s, hmarked, hsent]

theorem Imports.rebuilds {back : W → W} (h : kind.Imports w canonical)
    (hread : kind.resource.read.method = .get ∧ kind.resource.read.body = none)
    (hcreate : kind.resource.create.body = some fun s => (w.request s).map w.encode)
    (hrequest : ∀ s, w.request (kind.resource.markComputed s) = w.request s)
    (hreads : Json.ReadsBack answer w.decode? back)
    (hencode : ∀ a b, w.encode a = w.encode b → answer a = answer b)
    (hback : ∀ a, w.encode (back a) = w.encode a ∧ w.refresh (back a) = w.refresh a) :
    kind.Rebuilds w answer canonical := by
  intro k config s kept session session' hrun hcanonical hparts
  obtain ⟨sent, hpayload, hmarked, hsent, hs⟩ := h.exists_sent hcreate hrequest hrun hparts
  obtain ⟨id, imported, hid, himport, hsame, hrefresh⟩ :=
    h.finds hcanonical hmarked hsent hs hparts
  obtain ⟨ps, hps, -⟩ := hs
  have hurl (base : String) := kind.identity_lawful.url hps base _ List.mem_cons_self
  have hurl' (base : String) :=
    kind.identity_lawful.url (hsame.trans hps) base _ List.mem_cons_self
  have hempty (s : kind.State) : kind.resource.read.payload s = .ok .none := by
    simp only [Operation.payload, hread.2]
  refine ⟨id, imported, sent, hid, ?_, hpayload, ?_, fun k =>
    ⟨k.client.baseUrl ++ kind.identity.path ps, ?_, ?_, ?_⟩⟩
  · simp only [Resource.importObject, himport]
  · intro told htold
    exact ⟨back sent, hreads.reads sent htold, (hback sent).1⟩
  · exact Operation.request_eq_ok_iff.mpr ⟨hurl _, hempty s⟩
  · exact Operation.request_eq_ok_iff.mpr ⟨hurl' _, hempty imported⟩
  · intro kept session session' reply told hsend hparse htells
    obtain ⟨a, ha, hencoded⟩ := htells
    have hkept : back a = back sent :=
      (hreads.same_iff a sent).mp (hencode a sent hencoded ▸ .refl _)
    have hwritten : w.refresh a imported = s := by
      rw [← (hback a).2, hkept, (hback sent).2, hrefresh]
    rw [← hread.1] at hsend
    rw [Resource.readObject_of_told w.reads (hurl' _) (hempty imported) hsend
      (Option.bind_eq_some_iff.mpr ⟨told, hparse, ha⟩), hwritten]

theorem Imports.composed {id parent part : kind.State → Field String}
    {path : String → String → String} {imported : String → String → String → kind.State}
    (hidentity : kind.identity = .composed id parent part path)
    (hpart : ∀ s, part (kind.resource.markComputed s) = .unknown)
    (himport : ∀ i a b, ComposedId.parsePair i = .ok (a, b) →
      kind.resource.importState i = .ok (imported i a b))
    (hparts : ∀ i a b, parent (imported i a b) = .known a ∧ part (imported i a b) = .known b)
    (hrefresh : ∀ config s sent, canonical config →
      kind.resource.markComputed s =
        kind.resource.markComputed (kind.resource.applyDefaults config) →
      w.request s = .ok sent → ∀ i a b, id s = .known i → parent s = .known a →
        part s = .known b → w.refresh sent (imported i a b) = s) : kind.Imports w canonical where
  opens _ config := by
    rw [hidentity]
    exact Identity.not_separable_of_unknown (hpart config)
  finds {config s sent} hconfig hmarked hsent hs hparts' := by
    rw [hidentity] at hs hparts'
    obtain ⟨a, b, hid, ha, hb, hpair⟩ := hs.exists_parsePair hparts'
    refine ⟨_, imported _ a b, by rw [hidentity]; exact hid, himport _ a b hpair, ?_,
      hrefresh config s sent hconfig hmarked hsent _ a b hid ha hb⟩
    simp only [hidentity, Identity.composed, hparts, ha, hb]

theorem Imports.named {id key : kind.State → Field String} {path : String → String}
    {imported : String → kind.State} (hidentity : kind.identity = .named id key path)
    (hcreate : kind.resource.create.response = none)
    (himport : ∀ i, kind.resource.importState i = .ok (imported i))
    (hkey : ∀ i, key (imported i) = .known i)
    (hrefresh : ∀ config s sent, canonical config →
      kind.resource.markComputed s =
        kind.resource.markComputed (kind.resource.applyDefaults config) →
      w.request s = .ok sent → ∀ i, id s = .known i → key s = .known i →
        w.refresh sent (imported i) = s) : kind.Imports w canonical where
  opens h := by
    rw [hcreate] at h
    cases h
  finds {config s sent} hconfig hmarked hsent hs _ := by
    rw [hidentity] at hs
    obtain ⟨ps, hps, hid⟩ := hs
    obtain ⟨i, rfl, hi⟩ := Identity.singleton_eq_map_known.mp hps
    refine ⟨i, imported i, by rw [hidentity]; exact hid, himport i, ?_,
      hrefresh config s sent hconfig hmarked hsent i hid hi⟩
    simp only [hidentity, Identity.named, hkey, hi]

end ResourceKind

namespace UserAccount

/-- A scheme that an import finds out again. A flag that is set to false would be taken for one
that is not set. -/
structure AuthSchemeState.Canonical (a : AuthSchemeState) : Prop where
  environmentVariable : a.environmentVariable.KnownWith fun es => es.length ≤ 1
  kubernetesSecret : a.kubernetesSecret.KnownWith fun ks => ks.length ≤ 1
  awsSecret : a.awsSecret.KnownWith fun ss => ss.length ≤ 1
  vault : a.vault.KnownWith fun vs => vs.length ≤ 1 ∧ ∀ v ∈ vs, v.isDynamic.NullOr (· = true)

structure State.Canonical (s : State) : Prop where
  authDatabaseName : s.authDatabaseName.NullOr (· ≠ "")
  authScheme : s.authScheme.KnownWith AuthSchemeState.Canonical

theorem State.Canonical.steady {s : State} (h : s.Canonical) : s.Steady where
  authDatabaseName := h.authDatabaseName
  authScheme := h.authScheme.imp fun _ ha =>
    ⟨ha.environmentVariable, ha.kubernetesSecret, ha.awsSecret,
      ha.vault.imp fun _ hvs => ⟨hvs.1, fun v hv => (hvs.2 v hv).imp fun _ _ => trivial⟩⟩

theorem AuthScheme.toState_of_canonical {a : AuthScheme} {prior : Field Bool}
    (h : (a.toState prior).Canonical) : a.toState .null = a.toState prior := by
  cases hv : a.vault with
  | none => simp only [toState, hv, Option.map_none]
  | some v =>
    have hvault := h.vault
    simp only [toState, hv, Option.map_some, Field.single, Option.toList_some,
      Field.knownWith_known, List.forall_mem_singleton, Vault.toState] at hvault
    simp only [toState, hv, Option.map_some, Vault.toState, Field.ofFlag_of_nullOr hvault.2]

def State.imported (id repositoryId userAccountId : String) : State :=
  ⟨.known id, .known repositoryId, .known userAccountId, .null, .null, .null⟩

theorem refresh_imported {config s : State} {u : UserAccount} (hconfig : config.Canonical)
    (hmarked : resource.markComputed s = resource.markComputed config) (hu : ofState s = .ok u)
    {id a b : String} (hid : s.id = .known id) (ha : s.repositoryId = .known a)
    (hb : s.userAccountId = .known b) : refresh u (.imported id a b) = s := by
  have hname : s.authDatabaseName = config.authDatabaseName :=
    (congrArg State.authDatabaseName hmarked :)
  have hscheme : s.authScheme = config.authScheme := (congrArg State.authScheme hmarked :)
  have hs : s.Canonical := ⟨hname ▸ hconfig.authDatabaseName, hscheme ▸ hconfig.authScheme⟩
  have hback : refresh u s = s := (refresh_eq_self_iff hu).mpr hs.steady
  have hcanonical : (u.authScheme.toState s.priorDynamic).Canonical := by
    have hknown := hs.authScheme
    rw [← hback] at hknown
    exact hknown
  have hprior : (State.imported id a b).priorDynamic = .null := rfl
  calc refresh u (.imported id a b) = refresh u s := by
        simp only [refresh, hprior, AuthScheme.toState_of_canonical hcanonical]
        simp only [State.imported, hid, ha, hb]
    _ = s := hback

theorem importState_of_parsePair {i a b : String} (h : ComposedId.parsePair i = .ok (a, b)) :
    resource.importState i = .ok (.imported i a b) := by
  have himport : importState i = .ok (.imported i a b) :=
    ComposedId.importPair_eq_ok_iff.mpr ⟨a, b, h, rfl⟩
  exact himport

theorem imports : ResourceKind.userAccount.Imports wire State.Canonical :=
  .composed (show _ = identity from rfl) (fun _ => rfl) (fun _ _ _ => importState_of_parsePair)
    (fun _ _ _ => ⟨rfl, rfl⟩)
    fun _ _ _ hconfig hmarked hu _ _ _ => refresh_imported hconfig hmarked hu

end UserAccount

namespace Binding

/-- Defaults stand in for what a configuration leaves null. -/
structure State.Canonical (s : State) : Prop where
  enabled : s.enabled.NullOr fun _ => True
  references : s.references.KnownWith fun rs => ∀ r ∈ rs, r.nodeIndex.NullOr fun _ => True

theorem State.Canonical.steady {s : State} (h : s.Canonical) : (applyDefaults s).Steady where
  enabled := Field.isKnown_orDefault h.enabled true
  references := by
    have hreferences := h.references
    cases hrs : s.references with
    | null | unknown => simp [hrs] at hreferences
    | known rs =>
      rw [hrs, Field.knownWith_known] at hreferences
      simp only [applyDefaults, hrs, Field.map, Field.knownWith_known, List.forall_mem_map]
      exact fun r hr => Field.isKnown_orDefault (hreferences r hr) 0

def State.imported (id sidecarId bindingId : String) : State :=
  ⟨.known id, .known sidecarId, .null, .known bindingId, .null, .null⟩

theorem refresh_imported {config s : State} {u : Binding} (hconfig : config.Canonical)
    (hmarked : resource.markComputed s = resource.markComputed (applyDefaults config))
    (hu : ofState s = .ok u) {id a b : String} (hid : s.id = .known id)
    (ha : s.sidecarId = .known a) (hb : s.bindingId = .known b) :
    refresh u (.imported id a b) = s := by
  have henabled : s.enabled = (applyDefaults config).enabled := (congrArg State.enabled hmarked :)
  have hreferences : s.references = (applyDefaults config).references :=
    (congrArg State.references hmarked :)
  have hs : s.Steady :=
    ⟨henabled ▸ hconfig.steady.enabled, hreferences ▸ hconfig.steady.references⟩
  calc refresh u (.imported id a b) = refresh u s := by
        simp only [refresh, State.imported, hid, ha, hb]
    _ = s := (refresh_eq_self_iff hu).mpr hs

theorem importState_of_parsePair {i a b : String} (h : ComposedId.parsePair i = .ok (a, b)) :
    resource.importState i = .ok (.imported i a b) := by
  have himport : importState i = .ok (.imported i a b) :=
    ComposedId.importPair_eq_ok_iff.mpr ⟨a, b, h, rfl⟩
  exact himport

theorem imports : ResourceKind.binding.Imports wire State.Canonical :=
  .composed (show _ = identity from rfl) (fun _ => rfl) (fun _ _ _ => importState_of_parsePair)
    (fun _ _ _ => ⟨rfl, rfl⟩)
    fun _ _ _ hconfig hmarked hb _ _ _ => refresh_imported hconfig hmarked hb

end Binding

namespace Listener

structure State.Canonical (s : State) : Prop where
  repoTypes : s.repoTypes.NullOr fun vs => ∀ v ∈ vs, v.isKnown
  nonempty : s.repoTypes ≠ .known []
  host : s.address.KnownWith fun a => a.host.NullOr (· ≠ "")

def State.imported (id sidecarId listenerId : String) : State :=
  ⟨.known id, .known sidecarId, .known listenerId, .null, .null⟩

theorem refresh_imported {config s : State} {l : Listener} (hconfig : config.Canonical)
    (hmarked : resource.markComputed s = resource.markComputed config) (hl : ofState s = .ok l)
    {id a b : String} (hid : s.id = .known id) (ha : s.sidecarId = .known a)
    (hb : s.listenerId = .known b) : refresh l (.imported id a b) = s := by
  have htypes : s.repoTypes = config.repoTypes := (congrArg State.repoTypes hmarked :)
  have haddress : s.address = config.address := (congrArg State.address hmarked :)
  have hs : s.Steady := ⟨htypes ▸ hconfig.repoTypes, haddress ▸ hconfig.host⟩
  have hne : s.repoTypes ≠ .known [] := htypes ▸ hconfig.nonempty
  calc refresh l (.imported id a b) = refresh l s := by
        simp only [refresh, State.imported, hid, ha, hb, Field.ofStrings_of_ne hne]
    _ = s := (refresh_eq_self_iff hl).mpr hs

theorem importState_of_parsePair {i a b : String} (h : ComposedId.parsePair i = .ok (a, b)) :
    resource.importState i = .ok (.imported i a b) := by
  have himport : importState i = .ok (.imported i a b) :=
    ComposedId.importPair_eq_ok_iff.mpr ⟨a, b, h, rfl⟩
  exact himport

theorem imports : ResourceKind.listener.Imports wire State.Canonical :=
  .composed (show _ = identity from rfl) (fun _ => rfl) (fun _ _ _ => importState_of_parsePair)
    (fun _ _ _ => ⟨rfl, rfl⟩)
    fun _ _ _ hconfig hmarked hl _ _ _ => refresh_imported hconfig hmarked hl

end Listener

namespace DataLabel

theorem refresh_imported {config s : State} {d : DataLabel} (hconfig : config.Canonical)
    (hne : config.tags ≠ .known [])
    (hmarked : resource.markComputed s = resource.markComputed (applyDefaults config))
    (hd : ofState s = .ok d) {id : String} (hid : s.id = .known id) (hname : s.name = .known id) :
    refresh d (imported id) = s := by
  have hdescription : s.description = config.description :=
    (congrArg State.description hmarked :)
  have htags : s.tags = config.tags := (congrArg State.tags hmarked :)
  have hrule : s.rule = (applyDefaults config).rule := (congrArg State.rule hmarked :)
  have hdefaults := settled_applyDefaults hconfig
  have hs : s.Settled :=
    ⟨⟨hdescription ▸ hconfig.description, htags ▸ hconfig.tags,
      hrule ▸ hdefaults.canonical.rule⟩, hrule ▸ hdefaults.status⟩
  obtain ⟨d', hd', -, hback⟩ := exists_of_settled hs (hid.trans hname.symm)
  obtain rfl := Except.ok.inj (hd.symm.trans hd')
  have hne' : s.tags ≠ .known [] := htags ▸ hne
  calc refresh d (imported id) = refresh d s := by
        simp only [refresh, imported, hname, Field.ofStrings_of_ne hne']
    _ = s := hback

theorem imports : ResourceKind.dataLabel.Imports wire
    fun config => config.Canonical ∧ config.tags ≠ .known [] :=
  .named (show _ = identity from rfl) rfl (fun _ => rfl) (fun _ => rfl)
    fun _ _ _ hconfig hmarked hd _ => refresh_imported hconfig.1 hconfig.2 hmarked hd

end DataLabel

namespace AuthSettings

theorem refresh_imported {config s : State} {a : AuthSettings} (hconfig : config.Canonical)
    (hmarked : resource.markComputed s = resource.markComputed (applyDefaults config))
    (ha : ofState s = .ok a) {id : String} (hid : s.id = .known id)
    (hrepository : s.repositoryId = .known id) : refresh a (imported id) = s := by
  have hallow : s.allowNativeAuth = (applyDefaults config).allowNativeAuth :=
    (congrArg State.allowNativeAuth hmarked :)
  have hs : s.Steady :=
    ⟨hid.trans hrepository.symm, hallow ▸ (settled_applyDefaults hconfig).allowNativeAuth⟩
  calc refresh a (imported id) = refresh a s := by
        simp only [refresh, imported, hrepository]
    _ = s := (refresh_eq_self_iff ha).mpr hs

theorem imports : ResourceKind.authSettings.Imports wire State.Canonical :=
  .named (show _ = identity from rfl) rfl (fun _ => rfl) (fun _ => rfl)
    fun _ _ _ hconfig hmarked ha _ => refresh_imported hconfig hmarked ha

end AuthSettings

/--
An object that is created from a canonical configuration can be imported by its ID. The first read
of it asks for the same URL as a read of the object does, and when it is told of what was created
then the state is the one that the creation returned.
-/
theorem created_objects_rebuilt :
    ResourceKind.userAccount.Rebuilds UserAccount.wire UserAccount.toJson
      UserAccount.State.Canonical ∧
    ResourceKind.binding.Rebuilds Binding.wire Binding.envelope Binding.State.Canonical ∧
    ResourceKind.listener.Rebuilds Listener.wire (fun l => .obj [("listenerConfig", l.toJson)])
      Listener.State.Canonical ∧
    ResourceKind.dataLabel.Rebuilds DataLabel.wire DataLabel.toJson
      (fun config => config.Canonical ∧ config.tags ≠ .known []) ∧
    ResourceKind.authSettings.Rebuilds AuthSettings.wire
      (fun a => .obj [("authInfo", a.toJson)]) AuthSettings.State.Canonical := by
  refine ⟨UserAccount.imports.rebuilds ⟨rfl, rfl⟩ rfl (fun _ => rfl) UserAccount.readsBack
      (fun _ _ h => h) fun _ => ⟨rfl, rfl⟩,
    Binding.imports.rebuilds ⟨rfl, rfl⟩ rfl (fun _ => rfl) Binding.readsBack
      (fun _ _ h => h) fun _ => ⟨rfl, rfl⟩,
    Listener.imports.rebuilds ⟨rfl, rfl⟩ rfl (fun _ => rfl)
      (Listener.readsBack.only? Listener.ofJson?_unordered (fun _ => rfl) "listenerConfig") ?_
      fun _ => ⟨rfl, rfl⟩,
    DataLabel.imports.rebuilds ⟨rfl, rfl⟩ rfl (fun _ => rfl) DataLabel.readsBack
      (fun _ _ h => h) fun _ => ⟨rfl, rfl⟩,
    AuthSettings.imports.rebuilds ⟨rfl, rfl⟩ rfl (fun _ => rfl)
      (AuthSettings.readsBack.only? AuthSettings.ofJson?_unordered (fun _ => rfl) "authInfo") ?_
      fun _ => ⟨rfl, rfl⟩⟩
  · intro a b h
    have hjson : a.toJson = b.toJson := by simpa [Listener.wire] using h
    simp only [hjson]
  · intro a b h
    have hjson : a.toJson = b.toJson := h
    simp only [hjson]

namespace UserAccount

/-- An account that a vault generates, as it is configured or with the IDs that it is given. -/
def State.generated (id userAccountId : Field String) : State where
  id := id
  repositoryId := .known "r1"
  userAccountId := userAccountId
  name := .known "app"
  authDatabaseName := .null
  authScheme := .known
    ⟨.known [], .known [], .known [], .known [⟨.known "secret/db", .known true⟩]⟩

def generatedJson : Json :=
  .obj [("name", .str "app"), ("authScheme", .obj [("hashicorpVault",
    .obj [("path", .str "secret/db"), ("isDynamicUserAccount", .bool true)])])]

def generatedReply : List UInt8 :=
  Text.utf8 ("\x7b\"name\":\"app\",\"authScheme\":\x7b\"hashicorpVault\":" ++
    "\x7b\"path\":\"secret/db\",\"isDynamicUserAccount\":true\x7d\x7d\x7d").toList

theorem canonical_generated (id userAccountId : Field String) :
    (State.generated id userAccountId).Canonical where
  authDatabaseName := trivial
  authScheme := by
    refine ⟨Nat.zero_le 1, Nat.zero_le 1, Nat.zero_le 1, le_refl 1, ?_⟩
    exact List.forall_mem_singleton.mpr rfl

set_option maxRecDepth 20000 in
/-- The account is created, imported by its ID and read, and its state is the same again. -/
theorem rebuilt_of_generated : ∃ session imported session',
    resource.createObject
        (some (.replying (Text.utf8 "\x7b\"userAccountId\":\"u1\"\x7d".toList)))
        (resource.planCreate (.known (.generated .null .null))) { token := some ⟨"t", none⟩ } =
      .ok ⟨.known (.generated (.known "r1/u1") (.known "u1")), .null⟩ session ∧
    resource.importObject "r1/u1" = .ok ⟨.known imported, .null⟩ ∧
    resource.readObject (some (.replying generatedReply)) ⟨.known imported, .null⟩
        { token := some ⟨"t", none⟩ } =
      .ok ⟨.known (.generated (.known "r1/u1") (.known "u1")), .null⟩ session' := by
  have hcreate : resource.createObject
      (some (.replying (Text.utf8 "\x7b\"userAccountId\":\"u1\"\x7d".toList)))
      (resource.planCreate (.known (.generated .null .null))) { token := some ⟨"t", none⟩ } =
        .ok ⟨.known (.generated (.known "r1/u1") (.known "u1")), .null⟩
          ⟨[⟨.post, "/v1/repos/r1/userAccounts", some "Bearer t", .json generatedJson⟩],
            some ⟨"t", none⟩⟩ := by
    cbv
  have hparse : Json.parse? generatedReply = some generatedJson := by
    cbv
  have hparts : identity.Separable (State.generated (.known "r1/u1") (.known "u1")) := by
    intro _
    simp only [identity, Identity.composed, State.generated, List.forall_mem_cons,
      Field.knownWith_known]
    exact ⟨⟨by decide, by decide⟩, ⟨by decide, by decide⟩, by simp⟩
  obtain ⟨id, imported, sent, hid, himport, hsent, htold, hread⟩ :=
    created_objects_rebuilt.1 _ _ _ _ _ _ hcreate (canonical_generated _ _) hparts
  obtain rfl := Field.known.inj hid
  obtain ⟨url, hurl, -, hread⟩ := hread (.replying generatedReply)
  obtain ⟨rfl, -⟩ := Prod.mk.inj (Except.ok.inj hurl)
  have hsend : (Connection.replying generatedReply).send .get
      "http://cp/v1/repos/r1/userAccounts/u1" [] .none { token := some ⟨"t", none⟩ } =
        .ok generatedReply ⟨[⟨.get, "/v1/repos/r1/userAccounts/u1", some "Bearer t", .none⟩],
          some ⟨"t", none⟩⟩ :=
    rfl
  have hencoded : generatedJson = toJson sent := Http.Payload.json.inj (Except.ok.inj hsent)
  have htells := htold generatedJson (hencoded ▸ .refl _)
  exact ⟨_, imported, _, hcreate, himport, hread .null _ _ _ _ hsend hparse htells⟩

end UserAccount
end ControlPlane
