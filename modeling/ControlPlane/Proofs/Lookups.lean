import ControlPlane.Listener.Lookup
import ControlPlane.Proofs.Import
import ControlPlane.Proofs.Reads
import ControlPlane.Repository.Lookup

/-!
An object that is looked up and one that is imported and read are shown alike. A resource that is
read for the first time leaves out a flag that is not set and a list that is empty, where a lookup
shows both. There is no other difference.
-/
namespace ControlPlane

namespace Field
variable {α : Type} [DecidableEq α]

/-- A value that stands for nothing is shown as null. -/
def nullFor (blank : α) (x : Field α) : Field α := if x = .known blank then .null else x

theorem ofFlag_null (b : Bool) : ofFlag b .null = (known b).nullFor false := by
  cases b <;> rfl

theorem ofStrings_null (vs : List String) : ofStrings vs .null = (knownStrings vs).nullFor [] := by
  cases vs with
  | nil => rfl
  | cons v vs => simp [ofStrings, nullFor, knownStrings]

end Field

/-- An import by an ID and a read at a path, for a reply that tells of an object, lead to a
state. -/
def Resource.ReadsImported {S : Type} (r : Resource S) (id path : String) (tells : Json → Prop)
    (s : S) : Prop :=
  ∃ imported, r.importObject id = .ok ⟨.known imported, .null⟩ ∧
    ∀ (k : Connection) (kept : Field Unit) (session session' : Session) (reply : List UInt8)
      (told : Json), k.send .get (k.client.url path) [] .none session = .ok reply session' →
        Json.parse? reply = some told → tells told →
        r.readObject (some k) ⟨.known imported, kept⟩ session = .ok ⟨.known s, kept⟩ session'

/-- What is told is written over what the ID gives. -/
theorem Resource.ReadsImported.of_refresh {S R : Type} {r : Resource S} {read : Json → Option R}
    {refresh : R → S → S} {id path : String} {tells : Json → Prop} {imported s : S}
    (hread : r.read.response = some (.of read refresh)) (hmethod : r.read.method = .get)
    (hpayload : r.read.payload imported = .ok .none)
    (hurl : ∀ base, r.read.url imported base = .ok (base ++ path))
    (himport : r.importState id = .ok imported)
    (htells : ∀ j, tells j → ∃ told, read j = some told ∧ refresh told imported = s) :
    r.ReadsImported id path tells s := by
  refine ⟨imported, by simp only [importObject, himport], ?_⟩
  intro k kept session session' reply j hsend hparse hj
  obtain ⟨told, htold, rfl⟩ := htells j hj
  have hbind : (Json.parse? reply).bind read = some told := by
    rw [hparse, Option.bind_some, htold]
  rw [← hmethod] at hsend
  exact readObject_of_told hread (hurl _) hpayload hsend hbind

namespace Repository

/-- A node that is looked up and one that is read. -/
structure NodeState.Agrees (n m : NodeState) : Prop where
  name : m.name = n.name
  host : m.host = n.host
  port : m.port = n.port
  dynamic : m.dynamic = n.dynamic.nullFor false

/-- A repository that is looked up and one that is read. Their nodes go together in their order. -/
structure Item.Agrees (i : Item) (s : State) : Prop where
  id : s.id = i.id
  name : s.name = i.name
  type : s.type = i.type
  labels : s.labels = i.labels.nullFor []
  nodes : ∃ ns ms, i.nodes = .known ns ∧ s.nodes = .known ms ∧
    List.Forall₂ NodeState.Agrees ns ms

theorem refreshNodes_nil (ns : List Node) : refreshNodes ns [] = ns.map (·.toState .null) := by
  induction ns with
  | nil => rfl
  | cons n ns ih => rw [refreshNodes, ih, List.map_cons]

theorem Entry.agrees_refresh (e : Entry) :
    e.toItem.Agrees (refresh e.repository (imported e.id)) where
  id := rfl
  name := rfl
  type := rfl
  labels := Field.ofStrings_null e.repository.labels
  nodes := by
    refine ⟨_, refreshNodes e.repository.nodes [], rfl, rfl, ?_⟩
    rw [refreshNodes_nil, List.forall₂_map_left_iff, List.forall₂_map_right_iff,
      List.forall₂_same]
    intro n _
    exact ⟨rfl, rfl, rfl, Field.ofFlag_null n.dynamic⟩

/-- A reply tells of a repository, with an ID in it or without. -/
def Tells (r : Repository) (j : Json) : Prop :=
  ∃ id, Json.only? "repo" ofJson? j = some { r with id }

theorem Entry.readsImported (e : Entry) :
    resource.ReadsImported e.id ("/v1/repos/" ++ e.id) (Tells e.repository)
      (refresh e.repository (imported e.id)) := by
  refine .of_refresh rfl rfl rfl (fun base => ?_) rfl ?_
  · exact congrArg Except.ok String.append_assoc
  · rintro j ⟨id, hj⟩
    exact ⟨_, hj, rfl⟩

theorem Entry.ofJson?_obj (id : String) (j : Json) :
    ofJson? (.obj [("id", .str id), ("repo", j)]) = (Repository.ofJson? j).map (Entry.mk id) := by
  have h : (Json.obj [("id", .str id), ("repo", j)]).fields? ["id", "repo"] =
      some [("id", .str id), ("repo", j)] :=
    Json.fields?_obj (by simp) (List.Sublist.refl _)
  have hid : [("id", Json.str id), ("repo", j)].lookup "id" = some (.str id) := rfl
  have hrepo : [("id", Json.str id), ("repo", j)].lookup "repo" = some j := rfl
  simp only [ofJson?, h, Json.field?, hid, hrepo, Option.bind_eq_bind, Option.bind_some, Json.text?]
  cases Repository.ofJson? j <;> rfl

/-- The list of repositories is read as each of them is by itself. -/
theorem page_eq_mapM (k : Connection) (q : Query) (told : List (String × Json)) :
    (listing k q).page (.obj [("repos",
        .arr (told.map fun r => .obj [("id", .str r.1), ("repo", r.2)]))]) =
      told.mapM fun r => (Json.only? "repo" ofJson? (.obj [("repo", r.2)])).map (Entry.mk r.1) := by
  have hpage := Json.fieldD?_obj "repos" (Json.list? Entry.ofJson?) []
    (.arr (told.map fun r => .obj [("id", .str r.1), ("repo", r.2)]))
  refine hpage.trans ?_
  simp only [Json.list?, List.mapM_map, Function.comp_def, Entry.ofJson?_obj, Json.only?_obj]

theorem readConfig_of_items {k : Connection} {q : Query} {entries : List Entry}
    {session session' : Session} (h : (listing k q).items k session = .ok entries session') :
    lookup.readConfig (some k) (.known q) session =
      .ok (.known { q with found := .known (entries.map Entry.toItem) }) session' := by
  have hlookup : lookup.lookUp k q session =
      .ok { q with found := .known (entries.map Entry.toItem) } session' := by
    simp only [lookup, bind, EStateM.bind, h]
    rfl
  simp only [DataSource.readConfig, hlookup]

end Repository

namespace Listener

/-- A listener that is looked up and one that is read. -/
structure Item.Agrees (i : Item) (s : State) : Prop where
  sidecarId : s.sidecarId = i.sidecarId
  listenerId : s.listenerId = i.listenerId
  address : s.address = i.address
  repoTypes : s.repoTypes = i.repoTypes.nullFor []

theorem agrees_refresh (id sidecarId : String) (l : Listener) :
    (toItem sidecarId l).Agrees (refresh l (.imported id sidecarId l.id)) where
  sidecarId := rfl
  listenerId := rfl
  address := rfl
  repoTypes := Field.ofStrings_null l.repoTypes

/-- A reply tells of a listener, with an ID in it or without. -/
def Tells (l : Listener) (j : Json) : Prop :=
  ∃ id, Json.only? "listenerConfig" ofJson? j = some { l with id }

theorem readsImported {sidecarId : String} {l : Listener} (hsidecar : ComposedId.IsPart sidecarId)
    (hlistener : ComposedId.IsPart l.id) :
    resource.ReadsImported (ComposedId.join ComposedId.separator [sidecarId, l.id])
      (listPath sidecarId ++ "/" ++ l.id) (Tells l)
      (refresh l (.imported (ComposedId.join ComposedId.separator [sidecarId, l.id]) sidecarId
        l.id)) := by
  have himport := importState_of_parsePair (ComposedId.parsePair_join hsidecar hlistener)
  refine .of_refresh rfl rfl rfl (fun base => ?_) himport ?_
  · refine congrArg Except.ok ?_
    rw [String.append_assoc, String.append_assoc, String.append_assoc]
  · rintro j ⟨id, hj⟩
    exact ⟨_, hj, rfl⟩

theorem listOfJson?_eq_mapM (told : List Json) :
    listOfJson? (.obj [("listenerConfigs", .arr told)]) =
      told.mapM fun j => Json.only? "listenerConfig" ofJson? (.obj [("listenerConfig", j)]) := by
  refine (Json.fieldD?_obj "listenerConfigs" (Json.list? ofJson?) [] (.arr told)).trans ?_
  simp only [Json.list?, Json.only?_obj]

theorem readConfig_of_getJson {k : Connection} {q : Query} {sidecarId : String}
    {listeners : List Listener} {session session' : Session} (hq : q.sidecarId = .known sidecarId)
    (h : k.getJson (k.client.url (listPath sidecarId)) [] listOfJson? session =
      .ok listeners session') :
    lookup.readConfig (some k) (.known q) session =
      .ok (.known { q with
        found := .known ((listeners.filter (isWanted q)).map (toItem sidecarId)) }) session' := by
  have hlookup : lookup.lookUp k q session = .ok { q with
      found := .known ((listeners.filter (isWanted q)).map (toItem sidecarId)) } session' := by
    have hrequire : (liftExcept ((Field.known sidecarId).require "sidecar_id") : Call String)
        session = .ok sidecarId session := rfl
    simp only [lookup, hq, bind, EStateM.bind, hrequire, h]
    rfl
  simp only [DataSource.readConfig, hlookup]

end Listener

/--
What is looked up agrees with what is imported and read. The lists of a lookup are read object by
object as the objects are by themselves, and whatever is read is found. A repository that is found
can be imported by its ID, and a listener by the ID of its sidecar and its own if they can be told
apart. A reply that tells of the same object then leads to a state that agrees with the one found.
-/
theorem lookups_agree :
    (∀ (k : Connection) (q : Repository.Query) (told : List (String × Json)),
      (Repository.listing k q).page (.obj [("repos",
          .arr (told.map fun r => .obj [("id", .str r.1), ("repo", r.2)]))]) =
        told.mapM fun r => (Json.only? "repo" Repository.ofJson? (.obj [("repo", r.2)])).map
          (Repository.Entry.mk r.1)) ∧
    (∀ (k : Connection) (q : Repository.Query) (entries : List Repository.Entry)
      (session session' : Session),
      (Repository.listing k q).items k session = .ok entries session' →
        Repository.lookup.readConfig (some k) (.known q) session =
          .ok (.known { q with found := .known (entries.map (·.toItem)) }) session') ∧
    (∀ e : Repository.Entry, ∃ s,
      Repository.resource.ReadsImported e.id ("/v1/repos/" ++ e.id)
        (Repository.Tells e.repository) s ∧ e.toItem.Agrees s) ∧
    (∀ told : List Json, Listener.listOfJson? (.obj [("listenerConfigs", .arr told)]) =
      told.mapM fun j =>
        Json.only? "listenerConfig" Listener.ofJson? (.obj [("listenerConfig", j)])) ∧
    (∀ (k : Connection) (q : Listener.Query) (sidecarId : String) (listeners : List Listener)
      (session session' : Session), q.sidecarId = .known sidecarId →
      k.getJson (k.client.url (Listener.listPath sidecarId)) [] Listener.listOfJson? session =
        .ok listeners session' →
        Listener.lookup.readConfig (some k) (.known q) session =
          .ok (.known { q with
            found := .known ((listeners.filter (Listener.isWanted q)).map
              (Listener.toItem sidecarId)) }) session') ∧
    ∀ (sidecarId : String) (l : Listener), sidecarId ≠ "" → '/' ∉ sidecarId.toList →
      l.id ≠ "" → '/' ∉ l.id.toList → ∃ s,
        Listener.resource.ReadsImported (ComposedId.join '/' [sidecarId, l.id])
          (Listener.listPath sidecarId ++ "/" ++ l.id) (Listener.Tells l) s ∧
        (Listener.toItem sidecarId l).Agrees s := by
  refine ⟨Repository.page_eq_mapM, fun k q entries session session' h => ?_, fun e => ?_,
    Listener.listOfJson?_eq_mapM, fun k q sidecarId listeners session session' hq h => ?_, ?_⟩
  · exact Repository.readConfig_of_items h
  · exact ⟨_, e.readsImported, e.agrees_refresh⟩
  · exact Listener.readConfig_of_getJson hq h
  · intro sidecarId l hne hplain hne' hplain'
    exact ⟨_, Listener.readsImported ⟨hne, hplain⟩ ⟨hne', hplain'⟩,
      Listener.agrees_refresh _ sidecarId l⟩

namespace Repository

/-- A repository of one node that has nothing but a host. -/
def plain : Repository := ⟨"", "a", "s3", [], [⟨"", "h", 0, false⟩], none⟩

/-- A reply that lists the repository and tells it by itself. -/
def plainReply : List UInt8 :=
  let repo := "\"repo\":\x7b\"name\":\"a\",\"type\":\"s3\"," ++
    "\"repoNodes\":[\x7b\"host\":\"h\"\x7d]\x7d"
  Text.utf8 ("\x7b\"repos\":[\x7b\"id\":\"r1\"," ++ repo ++ "\x7d]," ++ repo ++ "\x7d").toList

def plainJson : Json :=
  .obj [("name", .str "a"), ("type", .str "s3"), ("repoNodes", .arr [.obj [("host", .str "h")]])]

theorem parse?_plainReply : Json.parse? plainReply = some (.obj
    [("repos", .arr [.obj [("id", .str "r1"), ("repo", plainJson)]]), ("repo", plainJson)]) := by
  cbv

def plainListing : Listing Entry := listing (.replying plainReply) ⟨.null, .null, .null⟩

set_option maxRecDepth 20000 in
theorem items_plainListing :
    plainListing.items (.replying plainReply) { token := some ⟨"t", none⟩ } =
      .ok [⟨"r1", plain⟩]
        ⟨[⟨.get, "/v1/repos?pageSize=100", some "Bearer t", .none⟩], some ⟨"t", none⟩⟩ := by
  have hget : (Connection.replying plainReply).getJson plainListing.url (plainListing.params none)
      plainListing.page { token := some ⟨"t", none⟩ } = .ok [⟨"r1", plain⟩]
        ⟨[⟨.get, "/v1/repos?pageSize=100", some "Bearer t", .none⟩], some ⟨"t", none⟩⟩ := by
    cbv
  rw [Listing.items, Listing.itemsAfter?]
  simp only [hget]
  rfl

/-- The flag and the list that are found are left out of the state that is read. -/
theorem lookups_agree_plain : ∃ session session' imported s,
    lookup.readConfig (some (.replying plainReply)) (.known ⟨.null, .null, .null⟩)
        { token := some ⟨"t", none⟩ } =
      .ok (.known ⟨.null, .null, .known [Entry.toItem ⟨"r1", plain⟩]⟩) session ∧
    resource.importObject "r1" = .ok ⟨.known imported, .null⟩ ∧
    resource.readObject (some (.replying plainReply)) ⟨.known imported, .null⟩
        { token := some ⟨"t", none⟩ } = .ok ⟨.known s, .null⟩ session' ∧
    (Entry.toItem ⟨"r1", plain⟩).Agrees s ∧ s.labels = .null := by
  obtain ⟨-, hlookup, hread, -⟩ := lookups_agree
  obtain ⟨s, ⟨imported, himport, hread⟩, hagrees⟩ := hread ⟨"r1", plain⟩
  have hsend : (Connection.replying plainReply).send .get "http://cp/v1/repos/r1" [] .none
      { token := some ⟨"t", none⟩ } = .ok plainReply
        ⟨[⟨.get, "/v1/repos/r1", some "Bearer t", .none⟩], some ⟨"t", none⟩⟩ := rfl
  have htells : Tells plain (.obj
      [("repos", .arr [.obj [("id", .str "r1"), ("repo", plainJson)]]), ("repo", plainJson)]) :=
    ⟨"", by cbv⟩
  exact ⟨_, _, imported, s, hlookup _ _ _ _ _ items_plainListing, himport,
    hread _ .null _ _ _ _ hsend parse?_plainReply htells, hagrees, hagrees.labels⟩

end Repository
end ControlPlane
