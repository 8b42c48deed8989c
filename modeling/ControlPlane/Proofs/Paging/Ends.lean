import ControlPlane.Proofs.Calls
import ControlPlane.Proofs.Paging

/-!
Listings end, whatever a control plane replies. Each page after the first is asked for with a cursor
that was not seen before, so that there are no more pages than cursors to tell apart, and one.
-/
namespace ControlPlane.Listing
variable {α : Type} {l : Listing α} {k : Connection} {s s' s₁ : Session} {page : List α}
  {pages : List (List α)} {after : Option String} {afters : List (Option String)}
  {result : EStateM.Result Failure Session (List α)}

/-- A page is asked for, and it is what the control plane replies. -/
def Gets (l : Listing α) (k : Connection) (after : Option String) (s : Session) (page : List α)
    (s' : Session) : Prop :=
  ∃ status body, k.Answers .get l.url (l.params after) .none s status body s' ∧
    status.isSuccess ∧ (Json.parse? body).bind l.page = some page

theorem getJson_eq_ok_iff_gets :
    k.getJson l.url (l.params after) l.page s = .ok page s' ↔ l.Gets k after s page s' :=
  Connection.getJson_eq_ok_iff

/-- Pages are asked for one after the other, and all of them come. -/
inductive Receives (l : Listing α) (k : Connection) :
    List (Option String) → Session → List (List α) → Session → Prop
  | nil (s : Session) : Receives l k [] s [] s
  | cons {after : Option String} {afters : List (Option String)} {s s₁ s' : Session}
    {page : List α} {pages : List (List α)} (h : l.Gets k after s page s₁)
    (hrest : Receives l k afters s₁ pages s') :
    Receives l k (after :: afters) s (page :: pages) s'

/-- How a listing ends that asks for pages: with all of them, or with the failure of the last
request. -/
inductive Ends (l : Listing α) (k : Connection) (afters : List (Option String)) (s : Session) :
    EStateM.Result Failure Session (List α) → Prop
  | told {pages : List (List α)} {s' : Session} (h : l.Receives k afters s pages s') :
    Ends l k afters s (.ok pages.flatten s')
  | fails {earlier : List (Option String)} {last : Option String} {pages : List (List α)}
    {s₁ s' : Session} {failure : Failure} (hafters : afters = earlier ++ [last])
    (h : l.Receives k earlier s pages s₁)
    (hfails : k.getJson l.url (l.params last) l.page s₁ = .error failure s') :
    Ends l k afters s (.error failure s')

/-- The items of a page stand before those of the pages after it. -/
def prepend (page : List α) :
    EStateM.Result Failure Session (List α) → EStateM.Result Failure Session (List α)
  | .ok rest s => .ok (page ++ rest) s
  | .error failure s => .error failure s

theorem Ends.cons (h : l.Gets k after s page s₁) (hrest : l.Ends k afters s₁ result) :
    l.Ends k (after :: afters) s (prepend page result) := by
  cases hrest with
  | told hpages => exact .told (.cons h hpages)
  | fails hafters hpages hfails =>
    rw [hafters, ← List.cons_append]
    exact .fails rfl (.cons h hpages) hfails

/-- The items that a control plane tells have cursors of a set, or empty ones. -/
def TakesFrom (l : Listing α) (k : Connection) (cursors : Finset String) : Prop :=
  ∀ log r status body page, k.server log r = .complete status body →
    (Json.parse? body).bind l.page = some page →
      ∀ a ∈ page, l.cursor a = "" ∨ l.cursor a ∈ cursors

theorem exists_of_next?_eq_some {seen : List String} {cursor : String}
    (h : l.next? seen page = some cursor) :
    cursor ≠ "" ∧ cursor ∉ seen ∧ ∃ a ∈ page, l.cursor a = cursor := by
  obtain ⟨hlast, hnew⟩ := Option.filter_eq_some_iff.mp h
  obtain ⟨a, ha, rfl⟩ := Option.map_eq_some_iff.mp hlast
  simp only [Bool.and_eq_true, decide_eq_true_eq] at hnew
  exact ⟨hnew.1.2, hnew.2, a, List.mem_of_getLast? ha, rfl⟩

theorem TakesFrom.mem {cursors : Finset String} (h : l.TakesFrom k cursors)
    (hpage : l.Gets k after s page s₁) {seen : List String} {cursor : String}
    (hnext : l.next? seen page = some cursor) : cursor ∈ cursors := by
  obtain ⟨hne, -, a, ha, rfl⟩ := exists_of_next?_eq_some hnext
  obtain ⟨status, body, ⟨token, s₁, target, -, -, -, hreply, -⟩, -, hread⟩ := hpage
  rcases h _ _ _ _ _ hreply hread a ha with hempty | hmem
  · exact absurd hempty hne
  · exact hmem

theorem card_unseen_lt {cursors : Finset String} {seen : List String} {cursor : String}
    (hmem : cursor ∈ cursors) (hnew : cursor ∉ seen) :
    (cursors \ (cursor :: seen).toFinset).card < (cursors \ seen.toFinset).card := by
  apply Finset.card_lt_card
  rw [List.toFinset_cons, Finset.sdiff_insert]
  apply Finset.erase_ssubset
  rw [Finset.mem_sdiff, List.mem_toFinset]
  exact ⟨hmem, hnew⟩

/-- The cursors that were not seen yet become fewer with each page. -/
theorem TakesFrom.itemsAfter?_ends {cursors : Finset String} (h : l.TakesFrom k cursors)
    (after : Option String) (seen : List String) (s : Session) :
    ∃ (asked : List String) (result : EStateM.Result Failure Session (List α)),
      l.itemsAfter? k after seen s = some result ∧ asked.Nodup ∧
      (∀ cursor ∈ asked, cursor ∈ cursors ∧ cursor ≠ "" ∧ cursor ∉ seen) ∧
      l.Ends k (after :: asked.map some) s result := by
  induction hcard : (cursors \ seen.toFinset).card using Nat.strongRecOn
    generalizing after seen s with
  | ind n ih =>
    rw [itemsAfter?]
    cases hget : k.getJson l.url (l.params after) l.page s with
    | error failure s' =>
      have hfails : l.Ends k ([] ++ [after]) s (.error failure s') := .fails rfl (.nil s) hget
      exact ⟨[], _, rfl, .nil, by simp, hfails⟩
    | ok page s₁ =>
      have hpage := getJson_eq_ok_iff_gets.mp hget
      cases hnext : l.next? seen page with
      | none =>
        have htold : l.Ends k [after] s (.ok [page].flatten s₁) := .told (.cons hpage (.nil s₁))
        rw [List.flatten_singleton] at htold
        exact ⟨[], .ok page s₁, by simp only [hnext], .nil, by simp, htold⟩
      | some cursor =>
        obtain ⟨hne, hnew, -⟩ := exists_of_next?_eq_some hnext
        have hmem := h.mem hpage hnext
        have hless := card_unseen_lt hmem hnew
        rw [hcard] at hless
        obtain ⟨asked, rest, hrest, hnodup, hasked, hends⟩ :=
          ih _ hless (some cursor) (cursor :: seen) s₁ rfl
        refine ⟨cursor :: asked, prepend page rest, ?_, ?_, ?_, hends.cons hpage⟩
        · simp only [hnext, hrest, Option.bind_eq_bind, Option.bind_some]
          cases rest <;> rfl
        · rw [List.nodup_cons]
          exact ⟨fun hin => (hasked cursor hin).2.2 List.mem_cons_self, hnodup⟩
        · intro c hc
          rcases List.mem_cons.mp hc with rfl | hc
          · exact ⟨hmem, hne, hnew⟩
          · obtain ⟨hmem', hne', hnew'⟩ := hasked c hc
            exact ⟨hmem', hne', fun hin => hnew' (List.mem_cons_of_mem _ hin)⟩

/-- A page is requested at the address of the listing, with its own parameters and those of the
page. -/
def Requests (l : Listing α) (after : Option String) (r : Http.Request) : Prop :=
  ∃ target, Url.target? l.url [] = some target ∧ l.Asks target after r

/-- The requests for pages, in turn. All others ask for tokens. -/
def Sends (l : Listing α) (k : Connection) (afters : List (Option String))
    (sent : List Http.Request) : Prop :=
  List.Forall₂ l.Requests afters (sent.filter (·.method = .get)) ∧
    ∀ r ∈ sent, r.method ≠ .get →
      ∃ target, Url.target? k.client.tokens.url [] = some target ∧ r = k.tokenRequest target

theorem Sends.append {afters' : List (Option String)} {sent sent' : List Http.Request}
    (h : l.Sends k afters sent) (h' : l.Sends k afters' sent') :
    l.Sends k (afters ++ afters') (sent ++ sent') := by
  constructor
  · rw [List.filter_append]
    exact List.rel_append h.1 h'.1
  · intro r hr hmethod
    rcases List.mem_append.mp hr with hr | hr
    · exact h.2 r hr hmethod
    · exact h'.2 r hr hmethod

theorem Sends.of_asked {asked : List Http.Request}
    (h : ∀ r ∈ asked, ∃ target, Url.target? k.client.tokens.url [] = some target ∧
      r = k.tokenRequest target) : l.Sends k [] asked := by
  have hnone : asked.filter (·.method = .get) = [] := by
    rw [List.filter_eq_nil_iff]
    intro r hr
    obtain ⟨target, -, rfl⟩ := h r hr
    simp [Connection.tokenRequest]
  refine ⟨?_, fun r hr _ => h r hr⟩
  rw [hnone]
  exact .nil

theorem requests_of_target {token : Token} {target : String}
    (h : Url.target? l.url (l.params after) = some target) :
    l.Requests after (Connection.authorized token .get target .none) := by
  obtain ⟨own, hown, hpath, hparams⟩ := Url.exists_of_target?_eq_some h
  exact ⟨own, hown, rfl, hpath, hparams⟩

theorem Sends.of_called {token : Token} {target : String}
    (h : Url.target? l.url (l.params after) = some target) :
    l.Sends k [after] [Connection.authorized token .get target .none] := by
  constructor
  · exact .cons (requests_of_target h) .nil
  · intro r hr hmethod
    rw [List.mem_singleton.mp hr] at hmethod
    exact absurd rfl hmethod

theorem Gets.sends (h : l.Gets k after s page s') :
    ∃ sent, s'.log = s.log ++ sent ∧ l.Sends k [after] sent := by
  obtain ⟨status, body, ⟨token, s₁, target, htoken, -, htarget, -, rfl⟩, -, -⟩ := h
  obtain ⟨asked, hlog, -, hasked⟩ := k.log_after_token s
  rw [htoken] at hlog
  refine ⟨asked ++ [Connection.authorized token .get target .none], ?_, ?_⟩
  · rw [← List.append_assoc]
    exact congrArg (· ++ _) hlog
  · exact (Sends.of_asked hasked).append (.of_called htarget)

theorem Receives.sends (h : l.Receives k afters s pages s') :
    ∃ sent, s'.log = s.log ++ sent ∧ l.Sends k afters sent := by
  induction h with
  | nil s => exact ⟨[], (List.append_nil _).symm, .of_asked (by simp)⟩
  | cons hpage _ ih =>
    obtain ⟨sent, hlog, hsent⟩ := hpage.sends
    obtain ⟨sent', hlog', hsent'⟩ := ih
    exact ⟨sent ++ sent', by rw [hlog', hlog, List.append_assoc], hsent.append hsent'⟩

theorem sends_of_getJson_eq_error {failure : Failure}
    (h : k.getJson l.url (l.params after) l.page s = .error failure s') :
    ∃ sent asked, s'.log = s.log ++ sent ∧ asked <+: [after] ∧ l.Sends k asked sent := by
  have hcalls : k.CallsOnce .get l.url (l.params after) .none s
      (Session.after (k.getJson l.url (l.params after) l.page s)) := Connection.callsOnce_getJson
  rw [h] at hcalls
  obtain ⟨asked, called, hlog, -, hlength, hasked, hcalled⟩ := hcalls
  cases called with
  | nil =>
    rw [List.append_nil] at hlog
    exact ⟨asked, [], hlog, List.nil_prefix, .of_asked hasked⟩
  | cons r rest =>
    have hrest : rest = [] := List.eq_nil_of_length_eq_zero (by simpa using hlength)
    obtain ⟨token, s₁, target, -, htarget, rfl⟩ := hcalled r List.mem_cons_self
    rw [hrest, List.append_assoc] at hlog
    exact ⟨_, [after], hlog, List.prefix_rfl, (Sends.of_asked hasked).append (.of_called htarget)⟩

theorem Ends.sends (h : l.Ends k afters s result) :
    ∃ sent asked, (Session.after result).log = s.log ++ sent ∧ asked <+: afters ∧
      l.Sends k asked sent := by
  cases h with
  | told hpages =>
    obtain ⟨sent, hlog, hsent⟩ := hpages.sends
    exact ⟨sent, afters, hlog, List.prefix_rfl, hsent⟩
  | fails hafters hpages hfails =>
    obtain ⟨sent, hlog, hsent⟩ := hpages.sends
    obtain ⟨sent', asked, hlog', hasked, hsent'⟩ := sends_of_getJson_eq_error hfails
    rw [hafters]
    exact ⟨sent ++ sent', _, by rw [Session.after, hlog', hlog, List.append_assoc],
      (List.prefix_append_right_inj _).mpr hasked, hsent.append hsent'⟩

/--
Whatever a control plane replies, a listing whose items have `n` cursors to tell apart ends after
`n + 1` requests for pages at most. No two of them have the same cursor and none has an empty one.
What is told are the pages in turn, or the failure of the request after which there is no other.
-/
theorem items_end (l : Listing α) (k : Connection) (s : Session) {cursors : Finset String}
    (h : l.TakesFrom k cursors) :
    ∃ asked : List String, asked.Nodup ∧ (∀ cursor ∈ asked, cursor ∈ cursors ∧ cursor ≠ "") ∧
      l.Ends k (none :: asked.map some) s (l.items k s) ∧
      ∃ sent received, (Session.after (l.items k s)).log = s.log ++ sent ∧
        received <+: none :: asked.map some ∧ l.Sends k received sent ∧
        (sent.filter (·.method = .get)).length ≤ cursors.card + 1 := by
  obtain ⟨asked, result, hitems, hnodup, hasked, hends⟩ := h.itemsAfter?_ends none [] s
  have hresult : l.items k s = result := by rw [items, hitems, Option.getD_some]
  have hcursors (cursor : String) (hcursor : cursor ∈ asked) : cursor ∈ cursors ∧ cursor ≠ "" :=
    ⟨(hasked cursor hcursor).1, (hasked cursor hcursor).2.1⟩
  have hlength : asked.length ≤ cursors.card := by
    rw [← List.toFinset_card_of_nodup hnodup]
    apply Finset.card_le_card
    intro cursor hcursor
    exact (hcursors cursor (List.mem_toFinset.mp hcursor)).1
  obtain ⟨sent, received, hlog, hreceived, hsent⟩ := hends.sends
  have hcount : (sent.filter (·.method = .get)).length ≤ cursors.card + 1 := by
    have hle := hreceived.length_le
    rw [List.length_cons, List.length_map] at hle
    rw [← hsent.1.length_eq]
    omega
  rw [hresult]
  exact ⟨asked, hnodup, hcursors, hends, sent, received, hlog, hreceived, hsent, hcount⟩

/-- Two letters that lead to each other for ever. -/
def circle : Connection where
  client := .of "http://cp" "a" "b"
  server _ request :=
    if request.method = .post then
      .complete 200 (Text.utf8 "\x7b\"access_token\":\"t\"\x7d".toList)
    else if (Url.paramsOf request.target).lookup "pageAfter" = some "a" then
      .complete 200 (Text.utf8 "[\"b\"]".toList)
    else .complete 200 (Text.utf8 "[\"a\"]".toList)

theorem circle_takesFrom : letters.TakesFrom circle {"a", "b"} := by
  have htoken : (Json.parse? (Text.utf8 "\x7b\"access_token\":\"t\"\x7d".toList)).bind
      letters.page = none := by cbv
  have ha : (Json.parse? (Text.utf8 "[\"a\"]".toList)).bind letters.page = some ["a"] := by cbv
  have hb : (Json.parse? (Text.utf8 "[\"b\"]".toList)).bind letters.page = some ["b"] := by cbv
  intro log r status body page hreply hread a hmem
  right
  simp only [circle] at hreply
  split_ifs at hreply <;> cases hreply
  · rw [htoken] at hread
    cases hread
  · rw [hb] at hread
    cases hread
    rw [List.mem_singleton.mp hmem]
    decide
  · rw [ha] at hread
    cases hread
    rw [List.mem_singleton.mp hmem]
    decide

/-- The circle is left when a letter comes back. -/
theorem items_circle :
    letters.TakesFrom circle {"a", "b"} ∧
      ∃ asked : List String, asked.Nodup ∧ letters.Ends circle (none :: asked.map some) {}
        (letters.items circle {}) ∧ (Session.after (letters.items circle {})).log.countP
          (·.method = .get) ≤ 3 := by
  obtain ⟨asked, hnodup, -, hends, sent, received, hlog, -, -, hcount⟩ :=
    items_end letters circle {} circle_takesFrom
  refine ⟨circle_takesFrom, asked, hnodup, hends, ?_⟩
  rw [hlog, List.nil_append, List.countP_eq_length_filter]
  exact hcount

end ControlPlane.Listing
