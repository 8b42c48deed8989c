import ControlPlane.Proofs.Identity.Kinds
import ControlPlane.Proofs.Requests
import ControlPlane.Proofs.Url.Segments

/-!
Unambiguous routing. The kind of an object and the names that identify it can be read from the path
that its requests go to, and no other request goes to such a path.
-/
namespace ControlPlane

namespace ResourceKind

/-- The words of the path of an object before and after the first of its names. -/
def words : ResourceKind → List String × List String
  | .dataLabel => (["v1", "datalabels"], [])
  | .datadog => (["v1", "integrations", "datadog"], [])
  | .logging => (["v1", "integrations", "logging"], [])
  | .microsoftTeams => (["v1", "integrations", "notifications", "teams"], [])
  | .slack => (["v1", "integrations", "notifications", "slack"], [])
  | .policy => (["v1", "policies"], [])
  | .repository => (["v1", "repos"], [])
  | .binding => (["v1", "sidecars"], ["bindings"])
  | .authSettings => (["v1", "repos"], ["conf", "auth"])
  | .userAccount => (["v1", "repos"], ["userAccounts"])
  | .serviceAccount => (["v1", "users", "serviceAccounts"], [])
  | .sidecar => (["v1", "sidecars"], [])
  | .sidecarCredentials => (["v1", "users", "sidecarAccounts"], [])
  | .listener => (["v1", "sidecars"], ["listeners"])

/-- The path of an object with the given names. -/
def segments (kind : ResourceKind) (names : List String) : List String :=
  kind.words.1 ++ names.take 1 ++ kind.words.2 ++ names.drop 1

/-- The path that objects are created at, below those that they belong to. -/
def collection (kind : ResourceKind) (parents : List String) : List String :=
  kind.words.1 ++ parents ++ kind.words.2

/-- The object that a path leads to. -/
def route : List String → Option (ResourceKind × List String)
  | ["v1", "datalabels", a] => some (.dataLabel, [a])
  | ["v1", "integrations", "datadog", a] => some (.datadog, [a])
  | ["v1", "integrations", "logging", a] => some (.logging, [a])
  | ["v1", "integrations", "notifications", "teams", a] => some (.microsoftTeams, [a])
  | ["v1", "integrations", "notifications", "slack", a] => some (.slack, [a])
  | ["v1", "policies", a] => some (.policy, [a])
  | ["v1", "repos", a] => some (.repository, [a])
  | ["v1", "repos", a, "conf", "auth"] => some (.authSettings, [a])
  | ["v1", "repos", a, "userAccounts", b] => some (.userAccount, [a, b])
  | ["v1", "sidecars", a] => some (.sidecar, [a])
  | ["v1", "sidecars", a, "bindings", b] => some (.binding, [a, b])
  | ["v1", "sidecars", a, "listeners", b] => some (.listener, [a, b])
  | ["v1", "users", "serviceAccounts", a] => some (.serviceAccount, [a])
  | ["v1", "users", "sidecarAccounts", a] => some (.sidecarCredentials, [a])
  | _ => none

theorem arePlain_words (kind : ResourceKind) :
    Url.ArePlain kind.words.1 ∧ Url.ArePlain kind.words.2 := by
  cases kind <;> exact ⟨Url.arePlain_of_all rfl, Url.arePlain_of_all rfl⟩

theorem arePlain_segments (kind : ResourceKind) {names : List String} (h : Url.ArePlain names) :
    Url.ArePlain (kind.segments names) := by
  obtain ⟨hbefore, hafter⟩ := kind.arePlain_words
  exact ((hbefore.append (h.take 1)).append hafter).append (h.drop 1)

theorem arePlain_collection (kind : ResourceKind) {parents : List String}
    (h : Url.ArePlain parents) : Url.ArePlain (kind.collection parents) := by
  obtain ⟨hbefore, hafter⟩ := kind.arePlain_words
  exact (hbefore.append h).append hafter

theorem segments_of_parts {kind : ResourceKind} {s : kind.State} {names : List String}
    (h : kind.identity.parts s = names.map .known) :
    route (kind.segments names) = some (kind, names) ∧
      kind.identity.path names = Url.below (kind.segments names) := by
  cases kind with
  | binding | userAccount | listener =>
    obtain ⟨a, b, rfl, -, -⟩ := Identity.pair_eq_map_known.mp h
    refine ⟨rfl, String.toList_inj.mp ?_⟩
    simp [identity, Identity.composed, Binding.identity, Binding.listPath, UserAccount.identity,
      Listener.identity, Listener.listPath, segments, words, Url.below, Url.joined]
  | _ =>
    obtain ⟨a, rfl, -⟩ := Identity.singleton_eq_map_known.mp h
    refine ⟨rfl, String.toList_inj.mp ?_⟩
    simp [identity, Identity.own, Identity.named, DataLabel.identity, Datadog.identity,
      Logging.identity, Webhook.identity, Webhook.Service.segment, Policy.identity,
      Repository.identity, AuthSettings.identity, ServiceAccount.identity, Sidecar.identity,
      SidecarCredentials.identity, segments, words, Url.below, Url.joined]

theorem segments_ne_nil (kind : ResourceKind) (names : List String) : kind.segments names ≠ [] := by
  cases kind <;> simp [segments, words]

theorem collection_ne_nil (kind : ResourceKind) (parents : List String) :
    kind.collection parents ≠ [] := by
  cases kind <;> simp [collection, words]

/-- An object that is posted is created below the ones that it belongs to, at no object's path. -/
theorem create_of_post {kind : ResourceKind} (hpost : kind.resource.create.method = .post)
    {s : kind.State} {parents : List String}
    (h : (kind.identity.parts s).dropLast = parents.map .known) (base : String) :
    kind.resource.create.url s base = .ok (base ++ Url.below (kind.collection parents)) ∧
      route (kind.collection parents) = none := by
  cases kind with
  | dataLabel | authSettings => cases hpost
  | binding | userAccount | listener =>
    obtain ⟨a, rfl, ha⟩ := Identity.singleton_eq_map_known.mp h
    refine ⟨?_, rfl⟩
    simp only [resource, Binding.resource, Binding.collectionUrl, UserAccount.resource,
      UserAccount.collectionUrl, Listener.resource, Listener.collectionUrl, ha]
    refine congrArg Except.ok (String.toList_inj.mp ?_)
    simp [Binding.listPath, Listener.listPath, collection, words, Url.below, Url.joined]
  | microsoftTeams | slack =>
    obtain rfl : parents = [] := List.map_eq_nil_iff.mp h.symm
    exact ⟨congrArg Except.ok String.append_assoc, rfl⟩
  | _ =>
    obtain rfl : parents = [] := List.map_eq_nil_iff.mp h.symm
    exact ⟨rfl, rfl⟩

end ResourceKind

/-- The path that a look-up always goes to, if there is one. -/
def DataSourceKind.endpoint? : DataSourceKind → Option (List String)
  | .dataLabel => some ["v1", "datalabels"]
  | .repository => some ["v1", "repos"]
  | .samlCertificate => some ["v1", "integrations", "saml", "rsa", "cert"]
  | .sidecarId => some ["v1", "sidecars"]
  | .systemInfo => some ["v1", "systemInfo"]
  | .boundPorts | .listener => none

/-- The endpoint of tokens. -/
def TokenSource.segments : List String := ["v1", "users", "oidc", "token"]

theorem TokenSource.arePlain_segments : Url.ArePlain TokenSource.segments :=
  Url.arePlain_of_all rfl

theorem TokenSource.url_of {c : Client} {address id secret : String}
    (h : c = .of address id secret) : c.tokens.url = c.baseUrl ++ Url.below segments := by
  have hpath : path = Url.below segments := rfl
  rw [← hpath, h]
  rfl

namespace DataSourceKind
variable {kind : DataSourceKind} {endpoint : List String}

theorem arePlain_endpoint (h : kind.endpoint? = some endpoint) :
    endpoint ≠ [] ∧ Url.ArePlain endpoint ∧ ResourceKind.route endpoint = none := by
  cases kind with
  | boundPorts | listener => cases h
  | _ =>
    obtain rfl := Option.some.inj h
    exact ⟨List.cons_ne_nil _ _, Url.arePlain_of_all rfl, rfl⟩

theorem reaches_lookUp {k : Connection} {T : String → Prop}
    (htoken : ∀ t ∈ Url.target? k.client.tokens.url [], T t)
    (h : kind.endpoint? = some endpoint)
    (hcall : ∀ params, ∀ t ∈ Url.target? (k.client.url (Url.below endpoint)) params, T t)
    (q : kind.State) : Call.Reaches T (kind.source.lookUp k q) := by
  cases kind with
  | boundPorts | listener => cases h
  | dataLabel =>
    obtain rfl := Option.some.inj h
    exact .bind (.getJson htoken _ (hcall _)) fun _ => .pure _
  | repository =>
    obtain rfl := Option.some.inj h
    exact .bind (.items htoken _ hcall) fun _ => .pure _
  | samlCertificate =>
    obtain rfl := Option.some.inj h
    exact .bind (.getJson htoken _ (hcall _)) fun _ => .pure _
  | systemInfo =>
    obtain rfl := Option.some.inj h
    exact .getJson htoken _ (hcall _)
  | sidecarId =>
    obtain rfl := Option.some.inj h
    refine .bind (.liftExcept _) fun name => .bind (.getJson htoken _ (hcall _)) fun entries => ?_
    cases Sidecar.idOf? name entries with
    | none => exact .throw _
    | some id => exact .pure _

end DataSourceKind

/-- An object of some kind whose identifying attributes are known. They are not empty and hold
letters, digits, `-` and `_` only. -/
structure Located where
  kind : ResourceKind
  state : kind.State
  names : List String
  parts_eq : kind.identity.parts state = names.map .known
  plain : Url.ArePlain names

namespace Located

def segments (o : Located) : List String := o.kind.segments o.names

theorem route_segments (o : Located) : ResourceKind.route o.segments = some (o.kind, o.names) :=
  (ResourceKind.segments_of_parts o.parts_eq).1

theorem arePlain_segments (o : Located) : Url.ArePlain o.segments :=
  o.kind.arePlain_segments o.plain

theorem segments_ne_nil (o : Located) : o.segments ≠ [] := o.kind.segments_ne_nil o.names

theorem url_eq (o : Located) (base : String) :
    ∀ op ∈ o.kind.resource.onObject, op.url o.state base = .ok (base ++ Url.below o.segments) := by
  intro op hop
  rw [o.kind.identity_lawful.url o.parts_eq base op hop,
    (ResourceKind.segments_of_parts o.parts_eq).2]
  rfl

/-- Addresses that lead to no object stay apart from those that do, whatever is asked of them. -/
theorem targetAt_ne (o : Located) {base target : String} {scheme authority place : List Char}
    (hbase : Url.IsBase base scheme authority place) {ss : List String} (hne : ss ≠ [])
    (hplain : Url.ArePlain ss) (hroute : ResourceKind.route ss = none)
    {params : List (String × String)}
    (htarget : Url.target? (base ++ Url.below ss) params = some target) :
    target ≠ Url.targetAt place o.segments := by
  rintro rfl
  have hpath := hplain.pathOf_of_target?_below hbase hne htarget
  rw [o.arePlain_segments.pathOf_targetAt place o.segments_ne_nil] at hpath
  have hsegments := o.arePlain_segments.targetAt_injective hplain (String.toList_inj.mp hpath)
  rw [← hsegments, o.route_segments] at hroute
  cases hroute

theorem targetAt_eq_iff (o o' : Located) (place : List Char) :
    Url.targetAt place o.segments = Url.targetAt place o'.segments ↔
      o.kind = o'.kind ∧ o.names = o'.names := by
  constructor
  · intro h
    have hsegments := o.arePlain_segments.targetAt_injective o'.arePlain_segments h
    have hroute := o.route_segments
    rw [hsegments, o'.route_segments, Option.some.injEq, Prod.mk.injEq] at hroute
    exact ⟨hroute.1.symm, hroute.2.symm⟩
  · rintro ⟨hkind, hnames⟩
    rw [segments, segments, hkind, hnames]

end Located

/--
The requests on an object go to a target that no other object has, whatever their names, and the
requests for tokens, for new objects and of look-ups go elsewhere.
-/
theorem routes_unambiguous {k : Connection} {address id secret : String}
    (hclient : k.client = .of address id secret) {scheme authority place : List Char}
    (hbase : Url.IsBase k.client.baseUrl scheme authority place) :
    ∃ (tokens : String) (target : Located → String),
      Url.target? k.client.tokens.url [] = some tokens ∧
      (∀ o, ∀ op ∈ o.kind.resource.onObject,
        (∃ url, op.url o.state k.client.baseUrl = .ok url ∧ Url.target? url [] = some (target o)) ∧
        ∀ session : Session, session.Reaches (fun t => t = tokens ∨ t = target o)
          (op.execute k o.state session).session) ∧
      (∀ o o', target o = target o' ↔ o.kind = o'.kind ∧ o.names = o'.names) ∧
      (∀ o, tokens ≠ target o) ∧
      (∀ (kind : ResourceKind) (s : kind.State) (parents : List String),
        kind.resource.create.method = .post →
        (kind.identity.parts s).dropLast = parents.map .known → Url.ArePlain parents →
        ∃ url t, kind.resource.create.url s k.client.baseUrl = .ok url ∧
          Url.target? url [] = some t ∧ ∀ o, t ≠ target o) ∧
      ∀ kind : DataSourceKind, ∀ endpoint ∈ kind.endpoint?,
        (∀ params, ∃ t, Url.target? (k.client.url (Url.below endpoint)) params = some t ∧
          ∀ o, t ≠ target o) ∧
        ∀ (q : kind.State) (session : Session), session.Reaches (fun t => ∀ o, t ≠ target o)
          (Session.after (kind.source.lookUp k q session)) := by
  have htokens : Url.target? (k.client.baseUrl ++ Url.below TokenSource.segments) [] =
      some (Url.targetAt place TokenSource.segments) :=
    TokenSource.arePlain_segments.target?_below hbase (List.cons_ne_nil _ _)
  have hobject (o : Located) :
      Url.target? (k.client.baseUrl ++ Url.below o.segments) [] =
        some (Url.targetAt place o.segments) :=
    o.arePlain_segments.target?_below hbase o.segments_ne_nil
  have htoken (o : Located) : Url.targetAt place TokenSource.segments ≠
      Url.targetAt place o.segments :=
    o.targetAt_ne hbase (List.cons_ne_nil _ _) TokenSource.arePlain_segments rfl htokens
  rw [← TokenSource.url_of hclient] at htokens
  refine ⟨Url.targetAt place TokenSource.segments, fun o => Url.targetAt place o.segments, htokens,
    ?_, fun o o' => o.targetAt_eq_iff o' place, htoken, ?_, ?_⟩
  · intro o op hop
    have hurl := o.url_eq k.client.baseUrl op hop
    refine ⟨⟨_, hurl, hobject o⟩, Operation.reaches_execute hurl ?_ ?_⟩
    · intro t ht
      exact .inl (Option.some.inj (ht.symm.trans htokens))
    · intro t ht
      exact .inr (Option.some.inj (ht.symm.trans (hobject o)))
  · intro kind s parents hpost hparents hplain
    obtain ⟨hurl, hroute⟩ := ResourceKind.create_of_post hpost hparents k.client.baseUrl
    have hcollection := kind.arePlain_collection hplain
    have htarget := hcollection.target?_below hbase (kind.collection_ne_nil parents)
    exact ⟨_, _, hurl, htarget, fun o =>
      o.targetAt_ne hbase (kind.collection_ne_nil parents) hcollection hroute htarget⟩
  · intro kind endpoint hendpoint
    obtain ⟨hne, hplain, hroute⟩ := DataSourceKind.arePlain_endpoint hendpoint
    have hcall (params : List (String × String)) :
        ∀ t ∈ Url.target? (k.client.url (Url.below endpoint)) params,
          ∀ o : Located, t ≠ Url.targetAt place o.segments :=
      fun t ht o => o.targetAt_ne hbase hne hplain hroute ht
    refine ⟨fun params => ?_, fun q => DataSourceKind.reaches_lookUp ?_ hendpoint hcall q⟩
    · obtain ⟨t, ht, -⟩ := Url.target?_params (hplain.target?_below hbase hne) params
      exact ⟨t, ht, hcall params t ht⟩
    · intro t ht o
      obtain rfl := Option.some.inj (ht.symm.trans htokens)
      exact htoken o

namespace Located

/-- A sidecar whose ID is the word that its listeners are found under. -/
def sidecar : Located where
  kind := .sidecar
  state := ⟨.known "listeners", .null, .null, .null, .null, .null⟩
  names := ["listeners"]
  parts_eq := rfl
  plain := Url.arePlain_of_all rfl

/-- A listener of that sidecar, with the same ID. -/
def listener : Located where
  kind := .listener
  state := ⟨.null, .known "listeners", .known "listeners", .null, .null⟩
  names := ["listeners", "listeners"]
  parts_eq := rfl
  plain := Url.arePlain_of_all rfl

def atPort : Connection := ⟨.of "https://cp:8443/" "a" "b", .unreachable⟩

theorem atPort_isBase : Url.IsBase atPort.client.baseUrl ['h', 't', 't', 'p', 's']
    ['c', 'p', ':', '8', '4', '4', '3'] [] where
  parts := by cbv
  web := by cbv
  host := by cbv
  ends := by simp [Url.isSlash]
  begins := by simp
  noQuery := by simp
  printable := by
    have h : (atPort.client.baseUrl.toList.all fun c => 0x20 < c.toNat) = true := by cbv
    simpa only [List.all_eq_true, decide_eq_true_eq] using h

theorem routes_of_listeners : ∃ url url' t t',
    Sidecar.resource.read.url sidecar.state atPort.client.baseUrl = .ok url ∧
    Listener.resource.read.url listener.state atPort.client.baseUrl = .ok url' ∧
    Url.target? url [] = some t ∧ Url.target? url' [] = some t' ∧ t ≠ t' := by
  obtain ⟨tokens, target, -, hobject, hiff, -⟩ :=
    @routes_unambiguous atPort "https://cp:8443/" "a" "b" rfl _ _ _ atPort_isBase
  obtain ⟨⟨url, hurl, ht⟩, -⟩ := hobject sidecar Sidecar.resource.read (.head _)
  obtain ⟨⟨url', hurl', ht'⟩, -⟩ := hobject listener Listener.resource.read (.head _)
  refine ⟨url, url', _, _, hurl, hurl', ht, ht', ?_⟩
  intro h
  exact absurd ((hiff sidecar listener).mp h).1 (by decide)

end Located
end ControlPlane
