import ControlPlane.Binding.BoundPorts
import ControlPlane.Proofs.Calls
import ControlPlane.Proofs.Paging

/-!
The ports that a sidecar is bound to are those of the listeners that its enabled bindings refer to,
each one once and in order. They do not depend on the order in which things are listed.
-/
namespace ControlPlane.Binding
variable {listeners : List Listener} {ports : List Int64}

namespace Reference

/-- A reference is to the last of the listeners that are listed with its ID. -/
def Means (listeners : List Listener) (r : Reference) (l : Listener) : Prop :=
  ∃ earlier later, listeners = earlier ++ l :: later ∧ l.id = r.listenerId ∧
    ∀ m ∈ later, m.id ≠ r.listenerId

/-- No listener is listed with the ID of a reference. -/
def Dangles (listeners : List Listener) (r : Reference) : Prop :=
  ∀ l ∈ listeners, l.id ≠ r.listenerId

theorem find?_eq_some_iff {r : Reference} {l : Listener} :
    find? listeners r = some l ↔ r.Means listeners l := by
  rw [find?, List.find?_eq_some_iff_append]
  constructor
  · rintro ⟨hid, later, earlier, hlist, hlater⟩
    refine ⟨earlier.reverse, later.reverse, ?_, by simpa using hid, by simpa using hlater⟩
    rw [← List.reverse_reverse listeners, hlist]
    simp
  · rintro ⟨earlier, later, rfl, hid, hlater⟩
    exact ⟨by simpa using hid, later.reverse, earlier.reverse, by simp, by simpa using hlater⟩

theorem find?_eq_none_iff {r : Reference} : find? listeners r = none ↔ r.Dangles listeners := by
  simp [find?, Dangles]

/-- With distinct IDs the order of the listeners does not matter. -/
theorem means_iff_of_nodup (hn : (listeners.map (·.id)).Nodup) {r : Reference} {l : Listener} :
    r.Means listeners l ↔ l ∈ listeners ∧ l.id = r.listenerId := by
  constructor
  · rintro ⟨earlier, later, rfl, hid, -⟩
    exact ⟨by simp, hid⟩
  · rintro ⟨hmem, hid⟩
    obtain ⟨earlier, later, rfl⟩ := List.append_of_mem hmem
    refine ⟨earlier, later, rfl, hid, ?_⟩
    intro m hm heq
    rw [List.map_append, List.map_cons, List.nodup_append, List.nodup_cons] at hn
    apply hn.2.1.1
    rw [hid, ← heq]
    exact List.mem_map_of_mem hm

end Reference

/-- The listeners that references are to, in their order. Those that dangle are dropped. -/
inductive Resolves (listeners : List Listener) : List Reference → List Listener → Prop
  | nil : Resolves listeners [] []
  | means {r : Reference} {l : Listener} {rest : List Reference} {found : List Listener}
    (h : r.Means listeners l) (hrest : Resolves listeners rest found) :
    Resolves listeners (r :: rest) (l :: found)
  | dangles {r : Reference} {rest : List Reference} {found : List Listener}
    (h : r.Dangles listeners) (hrest : Resolves listeners rest found) :
    Resolves listeners (r :: rest) found

theorem resolves_filterMap (listeners : List Listener) (rs : List Reference) :
    Resolves listeners rs (rs.filterMap (Reference.find? listeners)) := by
  induction rs with
  | nil => exact .nil
  | cons r rest ih =>
    rw [List.filterMap_cons]
    cases hfind : Reference.find? listeners r with
    | none => exact .dangles (Reference.find?_eq_none_iff.mp hfind) ih
    | some l => exact .means (Reference.find?_eq_some_iff.mp hfind) ih

theorem mem_insertPort {port p : Int64} : p ∈ insertPort port ports ↔ p = port ∨ p ∈ ports := by
  induction ports with
  | nil => simp [insertPort]
  | cons q rest ih =>
    unfold insertPort
    split_ifs with hless heq
    · simp
    · rw [heq]
      simp
    · rw [List.mem_cons, ih, List.mem_cons]
      exact or_left_comm

theorem pairwise_insertPort {port : Int64} (h : ports.Pairwise (· < ·)) :
    (insertPort port ports).Pairwise (· < ·) := by
  induction ports with
  | nil => simp [insertPort]
  | cons q rest ih =>
    obtain ⟨hq, hrest⟩ := List.pairwise_cons.mp h
    unfold insertPort
    split_ifs with hless heq
    · refine List.pairwise_cons.mpr ⟨?_, h⟩
      intro p hp
      rcases List.mem_cons.mp hp with rfl | hp
      · exact hless
      · exact Int64.lt_trans hless (hq p hp)
    · exact h
    · refine List.pairwise_cons.mpr ⟨?_, ih hrest⟩
      intro p hp
      rcases mem_insertPort.mp hp with rfl | hp
      · exact Int64.lt_of_le_of_ne (Int64.not_lt.mp hless) (Ne.symm heq)
      · exact hq p hp

theorem pairwise_foldr_insertPort (ps : List Int64) :
    (ps.foldr insertPort []).Pairwise (· < ·) := by
  induction ps with
  | nil => exact .nil
  | cons p rest ih => exact pairwise_insertPort ih

theorem mem_foldr_insertPort {ps : List Int64} {p : Int64} :
    p ∈ ps.foldr insertPort [] ↔ p ∈ ps := by
  induction ps with
  | nil => rfl
  | cons q rest ih => rw [List.foldr_cons, mem_insertPort, ih, List.mem_cons]

/-- A binding takes up the ports of the listeners that it refers to, if it is enabled. -/
def Takes (listeners : List Listener) (b : Binding) (port : Int64) : Prop :=
  b.enabled ∧ ∃ r ∈ b.references, ∃ l, r.Means listeners l ∧ l.address.port = port

theorem mem_boundPorts_iff {bindings : List Binding} {port : Int64} :
    port ∈ boundPorts (bindings.map (compose listeners)) ↔
      ∃ b ∈ bindings, b.Takes listeners port := by
  rw [boundPorts, mem_foldr_insertPort]
  simp only [List.mem_flatMap, List.mem_filter, List.mem_map]
  constructor
  · rintro ⟨_, ⟨⟨b, hb, rfl⟩, henabled⟩, l, hl, rfl⟩
    obtain ⟨r, hr, hfind⟩ := List.mem_filterMap.mp hl
    exact ⟨b, hb, henabled, r, hr, l, Reference.find?_eq_some_iff.mp hfind, rfl⟩
  · rintro ⟨b, hb, henabled, r, hr, l, hmeans, rfl⟩
    refine ⟨compose listeners b, ⟨⟨b, hb, rfl⟩, henabled⟩, l, ?_, rfl⟩
    exact List.mem_filterMap.mpr ⟨r, hr, Reference.find?_eq_some_iff.mpr hmeans⟩

theorem eq_of_ascending {ports ports' : List Int64} (h : ports.Pairwise (· < ·))
    (h' : ports'.Pairwise (· < ·)) (hmem : ∀ p, p ∈ ports ↔ p ∈ ports') : ports = ports' := by
  have hnodup {ps : List Int64} (hps : ps.Pairwise (· < ·)) : ps.Nodup := by
    refine hps.imp fun {a b} hab heq => ?_
    rw [heq] at hab
    exact Int64.lt_irrefl hab
  have hperm : ports.Perm ports' :=
    (List.perm_ext_iff_of_nodup (hnodup h) (hnodup h')).mpr hmem
  exact hperm.eq_of_pairwise (fun a b _ _ hab hba => absurd hba (Int64.lt_asymm hab)) h h'

/-- The same bindings in another order, each one with its references in another order. -/
def Reordered (bindings bindings' : List Binding) : Prop :=
  ∃ moved, bindings.Perm moved ∧ List.Forall₂ (fun b b' => ∃ references,
    b.references.Perm references ∧ b' = { b with references }) moved bindings'

theorem Reordered.exists_takes_iff {bindings bindings' : List Binding}
    (h : Reordered bindings bindings') {port : Int64} :
    (∃ b ∈ bindings, b.Takes listeners port) ↔ ∃ b ∈ bindings', b.Takes listeners port := by
  obtain ⟨moved, hperm, hmoved⟩ := h
  have hbindings : (∃ b ∈ bindings, b.Takes listeners port) ↔ ∃ b ∈ moved, b.Takes listeners port :=
    exists_congr fun b => and_congr_left fun _ => hperm.mem_iff
  rw [hbindings]
  clear hperm hbindings
  induction hmoved with
  | nil => simp
  | cons hb _ ih =>
    obtain ⟨references, hreferences, rfl⟩ := hb
    have htakes (b : Binding) (hb : b.references.Perm references) :
        b.Takes listeners port ↔ Takes listeners { b with references } port :=
      and_congr_right fun _ => exists_congr fun r => and_congr_left fun _ => hb.mem_iff
    rw [List.exists_mem_cons_iff, List.exists_mem_cons_iff]
    exact or_congr (htakes _ hreferences) ih

theorem takes_iff_of_perm {b : Binding} {listeners' : List Listener}
    (hn : (listeners.map (·.id)).Nodup) (h : listeners.Perm listeners') {port : Int64} :
    b.Takes listeners port ↔ b.Takes listeners' port := by
  have hn' : (listeners'.map (·.id)).Nodup := (h.map _).nodup_iff.mp hn
  have hmeans (r : Reference) (l : Listener) : r.Means listeners l ↔ r.Means listeners' l := by
    rw [Reference.means_iff_of_nodup hn, Reference.means_iff_of_nodup hn', h.mem_iff]
  simp only [Takes, hmeans]

/-- The ports stay the same when things are listed in other orders. Which listeners are listed last
matters only where two have the same ID. -/
theorem boundPorts_of_reordered {bindings bindings' : List Binding} {listeners' : List Listener}
    (hb : Reordered bindings bindings')
    (hl : listeners' = listeners ∨ (listeners.map (·.id)).Nodup ∧ listeners.Perm listeners') :
    boundPorts (bindings'.map (compose listeners')) =
      boundPorts (bindings.map (compose listeners)) := by
  apply eq_of_ascending (pairwise_foldr_insertPort _) (pairwise_foldr_insertPort _)
  intro port
  rw [← boundPorts, ← boundPorts, mem_boundPorts_iff, mem_boundPorts_iff, ← hb.exists_takes_iff]
  rcases hl with rfl | ⟨hn, hperm⟩
  · rfl
  · exact exists_congr fun b => and_congr_right fun _ => (takes_iff_of_perm hn hperm).symm

/-- The control plane tells the bindings of a sidecar in pages, and its listeners at once, to
whoever holds a token that it grants. -/
structure Told (k : Connection) (valid : Token → Prop) (sidecarId : String)
    (bindings : List Binding) (listeners : List Listener) : Prop where
  grants : ∃ target, k.Grants valid target
  pages : ∃ target, (listing k sidecarId).Tells k valid target bindings
  named : ∀ b ∈ bindings, b.id ≠ ""
  distinct : (bindings.map (·.id)).Nodup
  reached : ∃ target, Url.target? (k.client.url (Listener.listPath sidecarId)) [] = some target ∧
    ∀ log token, valid token → ∃ status body,
      k.server log (Connection.authorized token .get target .none) = .complete status body ∧
        status.isSuccess ∧ (Json.parse? body).bind Listener.listOfJson? = some listeners

section
variable {k : Connection} {valid : Token → Prop} {sidecarId : String} {bindings : List Binding}
  {s : Session}

theorem Told.composed_eq_ok (h : Told k valid sidecarId bindings listeners)
    (hs : s.Keeps valid) :
    ∃ s', composed k sidecarId s = .ok (bindings.map (compose listeners)) s' := by
  obtain ⟨tokenTarget, hk⟩ := h.grants
  obtain ⟨target, hpages⟩ := h.pages
  obtain ⟨s₁, hitems, hs₁⟩ := hpages.items_eq_ok hk hs h.distinct h.named
  obtain ⟨target', htarget', hreply⟩ := h.reached
  obtain ⟨s₂, hget, -⟩ := hk.getJson_eq_ok hs₁ htarget' hreply
  refine ⟨s₂, ?_⟩
  simp only [composed, bind, EStateM.bind, hitems, hget]
  rfl

theorem Told.readConfig_eq_ok (h : Told k valid sidecarId bindings listeners)
    (hs : s.Keeps valid) {q : PortsQuery} (hq : q.sidecarId = .known sidecarId) :
    ∃ s', portsLookup.readConfig (some k) (.known q) s =
      .ok (.known { q with
        id := .known sidecarId
        ports := .known ((boundPorts (bindings.map (compose listeners))).map .known) }) s' := by
  obtain ⟨s', hcomposed⟩ := h.composed_eq_ok hs
  have hlookUp : portsLookup.lookUp k q s = .ok { q with
      id := .known sidecarId
      ports := .known ((boundPorts (bindings.map (compose listeners))).map .known) } s' := by
    have hrequire : q.sidecarId.require "sidecar_id" = .ok sidecarId := by rw [hq]; rfl
    simp only [portsLookup, hrequire, liftExcept, bind, EStateM.bind, pure, EStateM.pure,
      hcomposed]
  exact ⟨s', by simp only [DataSource.readConfig, hlookUp]⟩

end

/--
The bindings of a sidecar are told in their order, each with the listeners that it refers to, and
the ports that are read are those that enabled bindings take up, each one once and in order. Other
orders of the bindings, of the references of each and, if their IDs are distinct, of the listeners
lead to the same ports.
-/
theorem ports_of_told {k : Connection} {valid : Token → Prop} {sidecarId : String}
    {bindings : List Binding} {listeners : List Listener}
    (h : Told k valid sidecarId bindings listeners) {s : Session} (hs : s.Keeps valid)
    {q : PortsQuery} (hq : q.sidecarId = .known sidecarId) :
    (∃ (entries : List ComposedBinding) (s' : Session), composed k sidecarId s = .ok entries s' ∧
      List.Forall₂ (fun b e => e.binding = b ∧ Resolves listeners b.references e.listeners)
        bindings entries) ∧
    ∃ (ports : List Int64) (s' : Session), portsLookup.readConfig (some k) (.known q) s =
        .ok (.known { q with id := .known sidecarId, ports := .known (ports.map .known) }) s' ∧
      ports.Pairwise (· < ·) ∧
      (∀ port, port ∈ ports ↔ ∃ b ∈ bindings, b.enabled ∧
        ∃ r ∈ b.references, ∃ l, r.Means listeners l ∧ l.address.port = port) ∧
      ∀ k' valid' bindings' listeners' s₁, Told k' valid' sidecarId bindings' listeners' →
        Session.Keeps s₁ valid' → Reordered bindings bindings' →
        (listeners' = listeners ∨ (listeners.map (·.id)).Nodup ∧ listeners.Perm listeners') →
        ∃ s₂, portsLookup.readConfig (some k') (.known q) s₁ = .ok
          (.known { q with id := .known sidecarId, ports := .known (ports.map .known) }) s₂ := by
  constructor
  · obtain ⟨s', hcomposed⟩ := h.composed_eq_ok hs
    refine ⟨_, s', hcomposed, ?_⟩
    rw [List.forall₂_map_right_iff]
    exact List.forall₂_same.mpr fun b _ => ⟨rfl, resolves_filterMap listeners b.references⟩
  · obtain ⟨s', hread⟩ := h.readConfig_eq_ok hs hq
    refine ⟨_, s', hread, pairwise_foldr_insertPort _, fun port => mem_boundPorts_iff, ?_⟩
    intro k' valid' bindings' listeners' s₁ h' hs₁ hbindings hlisteners
    rw [← boundPorts_of_reordered hbindings hlisteners]
    exact h'.readConfig_eq_ok hs₁ hq

/-- Two bindings, the second of which is not enabled. One reference of the first one dangles. -/
def pair : List Binding :=
  [⟨"b1", "r", true, [⟨"l2", 0⟩, ⟨"l9", 0⟩, ⟨"l1", 0⟩]⟩, ⟨"b2", "r", false, [⟨"l3", 0⟩]⟩]

/-- Four listeners, two of which have the same ID. -/
def quartet : List Listener :=
  [⟨"l2", [], "", 1⟩, ⟨"l1", [], "", 3306⟩, ⟨"l2", [], "", 5432⟩, ⟨"l3", [], "", 27017⟩]

def firstText : List Char :=
  "\x7b\"id\":\"b1\",\"repoId\":\"r\",\"enabled\":true,\"listenerBindings\":".toList ++
    "[\x7b\"listenerId\":\"l2\"\x7d,\x7b\"listenerId\":\"l9\"\x7d,".toList ++
    "\x7b\"listenerId\":\"l1\"\x7d]\x7d".toList

def secondText : List Char :=
  "\x7b\"id\":\"b2\",\"repoId\":\"r\",\"listenerBindings\":".toList ++
    "[\x7b\"listenerId\":\"l3\"\x7d]\x7d".toList

/-- The texts for the bindings that come after one. -/
def pairText (after : Option String) : List Char :=
  match after with
  | none => "\x7b\"bindings\":[".toList ++ firstText ++ ',' :: secondText ++ "]\x7d".toList
  | some "b1" => "\x7b\"bindings\":[".toList ++ secondText ++ "]\x7d".toList
  | some _ => "\x7b\x7d".toList

def quartetText : List Char :=
  "\x7b\"listenerConfigs\":[\x7b\"id\":\"l2\",\"address\":\x7b\"port\":1\x7d\x7d,".toList ++
    "\x7b\"id\":\"l1\",\"address\":\x7b\"port\":3306\x7d\x7d,".toList ++
    "\x7b\"id\":\"l2\",\"address\":\x7b\"port\":5432\x7d\x7d,".toList ++
    "\x7b\"id\":\"l3\",\"address\":\x7b\"port\":27017\x7d\x7d]\x7d".toList

def pairReply (asked : String) : List UInt8 :=
  if Url.pathOf asked = Url.pathOf "/v1/sidecars/s/listeners" then Text.utf8 quartetText
  else Text.utf8 (pairText ((Url.paramsOf asked).lookup "pageAfter"))

def pairConnection : Connection where
  client := .of "http://cp" "a" "b"
  server _ request :=
    if request.method = .post then
      .complete 200 (Text.utf8 "\x7b\"access_token\":\"t\"\x7d".toList)
    else .complete 200 (pairReply request.target)

theorem page_pairText (after : Option String) :
    (Json.parse? (Text.utf8 (pairText after))).bind (listing pairConnection "s").page =
      some (((listing pairConnection "s").following pair after).take 100) := by
  cases after with
  | none => decide +kernel
  | some c =>
    by_cases hfirst : c = "b1"
    · subst hfirst
      decide +kernel
    · have hfollowing : (listing pairConnection "s").following pair (some c) = [] := by
        by_cases hsecond : c = "b2"
        · subst hsecond
          rfl
        · simp [Listing.following, listing, pair, Ne.symm hfirst, Ne.symm hsecond]
      rw [hfollowing]
      have htext : pairText (some c) = "\x7b\x7d".toList := by
        unfold pairText
        split
        · contradiction
        · next hc => exact absurd (Option.some.inj hc) hfirst
        · rfl
      rw [htext]
      decide +kernel

theorem told_pair : Told pairConnection (fun token => token.secret = "t") "s" pair quartet where
  grants := ⟨"/v1/users/oidc/token", Connection.grants_of_server (by decide +kernel) fun _ => rfl⟩
  pages := by
    refine ⟨"/v1/sidecars/s/bindings", by decide +kernel, ?_⟩
    intro log token _ asked after hpath hparams
    refine ⟨200, pairReply asked, rfl, rfl, ?_⟩
    have hother : Url.pathOf asked ≠ Url.pathOf "/v1/sidecars/s/listeners" := by
      rw [hpath]
      decide +kernel
    rw [pairReply, if_neg hother, hparams]
    have hlookup : (Url.paramsOf "/v1/sidecars/s/bindings" ++
        (listing pairConnection "s").params after).lookup "pageAfter" = after := by
      cases after <;> rfl
    rw [hlookup]
    exact page_pairText after
  named := by decide
  distinct := by decide
  reached := by
    refine ⟨"/v1/sidecars/s/listeners", by decide +kernel, ?_⟩
    intro log token _
    refine ⟨200, pairReply "/v1/sidecars/s/listeners", rfl, rfl, ?_⟩
    rw [pairReply, if_pos rfl]
    decide +kernel

/-- Of the listeners with the same ID the second one counts, and ports come in order. -/
theorem ports_of_pair :
    Told pairConnection (fun token => token.secret = "t") "s" pair quartet ∧
    ∃ s', portsLookup.readConfig (some pairConnection) (.known ⟨.null, .known "s", .null⟩) {} =
      .ok (.known ⟨.known "s", .known "s", .known [.known 3306, .known 5432]⟩) s' := by
  have hs : Session.Keeps {} fun token => token.secret = "t" := by simp [Session.Keeps]
  obtain ⟨-, ports, s', hread, hascending, hmem, -⟩ :=
    ports_of_told told_pair hs (q := ⟨.null, .known "s", .null⟩) rfl
  have hbound : boundPorts (pair.map (compose quartet)) = [3306, 5432] := by decide +kernel
  have hports : ports = [3306, 5432] := by
    apply eq_of_ascending hascending (by decide)
    intro port
    rw [hmem, ← hbound]
    exact mem_boundPorts_iff.symm
  rw [hports] at hread
  exact ⟨told_pair, s', hread⟩

end ControlPlane.Binding
