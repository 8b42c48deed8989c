import ControlPlane.DataLabel.Lookup
import ControlPlane.Proofs.Paging.Ends
import ControlPlane.Proofs.Url.Naming
import ControlPlane.Repository.Lookup

/-!
Whatever text is put into the query of a request or into the form for a token is read back as it was
put there. So filters, cursors and credentials add no parameters of their own and take none away.
-/
namespace ControlPlane

namespace Url

theorem clean_sublist (cs : List Char) : (clean cs).Sublist cs :=
  List.filter_sublist.trans <|
    (Text.dropEndWhile_sublist _ _).trans (List.dropWhile_sublist _)

theorem afterAuthority?_sublist {cs rest : List Char} (h : afterAuthority? cs = some rest) :
    rest.Sublist cs := by
  unfold afterAuthority? at h
  rw [List.span_eq_takeWhile_dropWhile] at h
  split at h
  · next scheme behind heq =>
    have hbehind : behind.Sublist cs := by
      have hdrop := List.dropWhile_sublist (fun c => decide (c ≠ ':')) (l := cs)
      rw [(Prod.mk.inj heq).2] at hdrop
      exact (List.sublist_cons_self ':' behind).trans hdrop
    simp only at h
    split_ifs at h
    rw [← Option.some.inj h]
    exact ((List.drop_sublist _ _).trans (List.dropWhile_sublist _)).trans hbehind
  · cases h

/-- An address without a query has no parameters of its own. -/
theorem paramsOf_eq_nil {url target : String} (hurl : '?' ∉ url.toList)
    (h : target? url [] = some target) : paramsOf target = [] := by
  unfold target? at h
  obtain ⟨rest, hrest, rfl⟩ := Option.map_eq_some_iff.mp h
  have hsub := (afterAuthority?_sublist hrest).trans (clean_sublist url.toList)
  have hown : (rest.takeWhile (· ≠ '#')).dropWhile (· ≠ '?') = [] := by
    refine List.dropWhile_eq_nil_iff.mpr fun c hc => decide_eq_true ?_
    rintro rfl
    exact hurl (hsub.subset ((List.takeWhile_sublist _).subset hc))
  refine (paramsOf_path_tail _ _).trans ?_
  rw [hown]
  rfl

end Url

namespace Http.Request
variable {r : Http.Request} {url own : String} {params : List (String × String)}

/-- The request carries parameters to an address: its query reads as those that the address has by
itself and these, and as these alone if the address has no query. -/
def Carries (r : Request) (url : String) (params : List (String × String)) : Prop :=
  ∃ own, Url.target? url [] = some own ∧ Url.pathOf r.target = Url.pathOf own ∧
    Url.paramsOf r.target = Url.paramsOf own ++ params ∧
    ('?' ∉ url.toList → Url.paramsOf r.target = params)

/-- The request asks for a token: its form reads as the credentials. -/
def AsksToken (r : Request) (t : TokenSource) : Prop :=
  r.method = .post ∧ ∃ form, r.payload = .form form ∧ Text.Form.decode form.toList =
    [("grant_type", "client_credentials"), ("client_id", t.clientId),
      ("client_secret", t.clientSecret)]

theorem carries_of_paramsOf (hown : Url.target? url [] = some own)
    (hpath : Url.pathOf r.target = Url.pathOf own)
    (hparams : Url.paramsOf r.target = Url.paramsOf own ++ params) : r.Carries url params := by
  refine ⟨own, hown, hpath, hparams, fun hurl => ?_⟩
  rw [hparams, Url.paramsOf_eq_nil hurl hown, List.nil_append]

end Http.Request

namespace Connection
variable {k : Connection} {s s' : Session} {url : String} {params : List (String × String)}

theorem asksToken_tokenRequest (k : Connection) (target : String) :
    (k.tokenRequest target).AsksToken k.client.tokens := by
  refine ⟨rfl, _, rfl, ?_⟩
  rw [String.toList_ofList, Text.Form.decode_encode]
  rfl

/-- Between two sessions a token is asked for at most once, and then an address with parameters. -/
def Queries (k : Connection) (url : String) (params : List (String × String)) (s s' : Session) :
    Prop :=
  ∃ asked called : List Http.Request, s'.log = s.log ++ asked ++ called ∧
    asked.length ≤ 1 ∧ (∀ r ∈ asked, r.AsksToken k.client.tokens) ∧
    called.length ≤ 1 ∧ ∀ r ∈ called, r.method = .get ∧ r.Carries url params

theorem CallsOnce.queries (h : k.CallsOnce .get url params .none s s') :
    k.Queries url params s s' := by
  obtain ⟨asked, called, hlog, hasked, hcalled, htokens, hcalls⟩ := h
  refine ⟨asked, called, hlog, hasked, ?_, hcalled, ?_⟩
  · intro r hr
    obtain ⟨target, -, rfl⟩ := htokens r hr
    exact k.asksToken_tokenRequest target
  · intro r hr
    obtain ⟨token, s₁, target, -, htarget, rfl⟩ := hcalls r hr
    obtain ⟨own, hown, hpath, hparams⟩ := Url.exists_of_target?_eq_some htarget
    exact ⟨rfl, Http.Request.carries_of_paramsOf hown hpath hparams⟩

theorem queries_getJson {α : Type} (k : Connection) (url : String)
    (params : List (String × String)) (read : Json → Option α) (s : Session) :
    k.Queries url params s (Session.after (k.getJson url params read s)) :=
  callsOnce_getJson.queries

end Connection

namespace Listing
variable {α : Type} {l : Listing α} {k : Connection} {s s₁ s₂ : Session} {page : List α}
  {pages : List (List α)} {after : Option String} {afters : List (Option String)}
  {seen : List String}

/-- The parameters of the page that comes after others: the filters, the size of a page and, from
the second page on, the cursor of the last item told. -/
def paramsAfter (l : Listing α) (pages : List (List α)) : List (String × String) :=
  l.filters ++ [("pageSize", toString (max l.pageSize 1))] ++
    (pages.flatten.getLast?.map fun a => ("pageAfter", l.cursor a)).toList

theorem params_eq_paramsAfter (l : Listing α) (pages : List (List α)) :
    l.params (pages.flatten.getLast?.map l.cursor) = l.paramsAfter pages := by
  rw [params, paramsAfter, Text.Decimal.ofList_ofNat, Option.map_map]
  rfl

/-- The turns of a listing up to the request for a page: the pages told so far, the cursor to ask
for the next one with, the cursors that were seen, and the session. -/
inductive Turns (l : Listing α) (k : Connection) (s : Session) :
    List (List α) → Option String → List String → Session → Prop
  | start : Turns l k s [] none [] s
  | next {pages : List (List α)} {after : Option String} {seen : List String} {s₁ s₂ : Session}
    {page : List α} {cursor : String} (h : Turns l k s pages after seen s₁)
    (hpage : k.getJson l.url (l.params after) l.page s₁ = .ok page s₂)
    (hnext : l.next? seen page = some cursor) :
    Turns l k s (pages ++ [page]) (some cursor) (cursor :: seen) s₂

theorem Turns.after_eq (h : l.Turns k s pages after seen s₁) :
    after = pages.flatten.getLast?.map l.cursor := by
  cases h with
  | start => rfl
  | next h hpage hnext =>
    have hlast := (Option.filter_eq_some_iff.mp hnext).1
    obtain ⟨a, ha, hcursor⟩ := Option.map_eq_some_iff.mp hlast
    rw [List.flatten_append, List.flatten_singleton, List.getLast?_append, ha, Option.some_or,
      Option.map_some, hcursor]

theorem Turns.params_eq (h : l.Turns k s pages after seen s₁) :
    l.params after = l.paramsAfter pages := by
  rw [h.after_eq, params_eq_paramsAfter]

theorem Receives.concat (h : l.Receives k afters s pages s₁) (hpage : l.Gets k after s₁ page s₂) :
    l.Receives k (afters ++ [after]) s (pages ++ [page]) s₂ := by
  induction h with
  | nil s => exact .cons hpage (.nil s₂)
  | cons hfirst _ ih => exact .cons hfirst (ih hpage)

/-- The cursors that pages were asked for with, each that of the last item told before. -/
def cursorsOf (l : Listing α) (pages : List (List α)) : List (Option String) :=
  (List.range pages.length).map fun i => (pages.take i).flatten.getLast?.map l.cursor

theorem cursorsOf_concat (l : Listing α) (pages : List (List α)) (page : List α) :
    l.cursorsOf (pages ++ [page]) =
      l.cursorsOf pages ++ [pages.flatten.getLast?.map l.cursor] := by
  rw [cursorsOf, List.length_append, List.length_singleton, List.range_succ, List.map_append,
    List.map_singleton, List.take_left]
  congr 1
  apply List.map_congr_left
  intro i hi
  rw [List.take_append_of_le_length (Nat.le_of_lt (List.mem_range.mp hi))]

theorem Turns.receives (h : l.Turns k s pages after seen s₁) :
    l.Receives k (l.cursorsOf pages) s pages s₁ := by
  induction h with
  | start => exact .nil s
  | next h hpage hnext ih =>
    rw [cursorsOf_concat, ← h.after_eq]
    exact ih.concat (getJson_eq_ok_iff_gets.mp hpage)

/-- The requests for some pages, in turn, each with the parameters of its page. All others ask for
tokens. -/
def Asked (l : Listing α) (k : Connection) (pages : List (List α)) (sent : List Http.Request) :
    Prop :=
  List.Forall₂ (fun i r => r.Carries l.url (l.paramsAfter (pages.take i)))
      (List.range pages.length) (sent.filter (·.method = .get)) ∧
    ∀ r ∈ sent, r.method ≠ .get → r.AsksToken k.client.tokens

theorem Sends.asked {sent : List Http.Request} (h : l.Sends k (l.cursorsOf pages) sent) :
    l.Asked k pages sent := by
  obtain ⟨hpages, hothers⟩ := h
  constructor
  · rw [cursorsOf, List.forall₂_map_left_iff] at hpages
    refine hpages.imp fun i r hr => ?_
    obtain ⟨own, hown, -, hpath, hparams⟩ := hr
    rw [params_eq_paramsAfter] at hparams
    exact Http.Request.carries_of_paramsOf hown hpath hparams
  · intro r hr hmethod
    obtain ⟨target, -, rfl⟩ := hothers r hr hmethod
    exact k.asksToken_tokenRequest target

theorem Asked.length_eq {sent : List Http.Request} (h : l.Asked k pages sent) :
    (sent.filter (·.method = .get)).length = pages.length := by
  rw [← h.1.length_eq, List.length_range]

theorem Turns.asked (h : l.Turns k s pages after seen s₁) :
    ∃ sent, s₁.log = s.log ++ sent ∧ l.Asked k pages sent ∧
      (sent.filter (·.method = .get)).length = pages.length := by
  obtain ⟨sent, hlog, hsent⟩ := h.receives.sends
  exact ⟨sent, hlog, hsent.asked, hsent.asked.length_eq⟩

theorem Turns.queries (h : l.Turns k s pages after seen s₁) :
    k.Queries l.url (l.paramsAfter pages) s₁
      (Session.after (k.getJson l.url (l.params after) l.page s₁)) := by
  rw [← h.params_eq]
  exact k.queries_getJson l.url (l.params after) l.page s₁

end Listing

namespace Listing

end Listing

/-- A name of signs alone. -/
example : Text.Form.encode [("name", "&=%+# é")] = "name=%26%3D%25%2B%23+%C3%A9".toList := by
  decide +kernel

end ControlPlane
