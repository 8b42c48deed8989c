import ControlPlane.Listing
import ControlPlane.Proofs.Client
import ControlPlane.Proofs.Text.Decimal
import ControlPlane.Proofs.Url.Query

/-! Listings are told whole, page by page, by a control plane that answers as it is asked. -/
namespace ControlPlane

namespace Listing
variable {α : Type} {l : Listing α} {k : Connection} {items done rest : List α}
  {s s' : Session} {valid : Token → Prop} {tokenTarget target : String}

/-- The items after the one with a cursor. Without a cursor, these are all. -/
def following (l : Listing α) (items : List α) (after : Option String) : List α :=
  match after with
  | none => items
  | some cursor => (items.dropWhile (l.cursor · ≠ cursor)).drop 1

/-- The control plane tells the items: it answers each request for a page, from whoever holds a
valid token, with the items that come next. -/
structure Tells (k : Connection) (valid : Token → Prop) (l : Listing α) (target : String)
    (items : List α) : Prop where
  reached : Url.target? l.url [] = some target
  answers (log : List Http.Request) {token : Token} (h : valid token) {asked : String}
    {after : Option String} (hpath : Url.pathOf asked = Url.pathOf target)
    (hparams : Url.paramsOf asked = Url.paramsOf target ++ l.params after) :
    ∃ status body, k.server log (Connection.authorized token .get asked .none) =
        .complete status body ∧ status.isSuccess ∧
      (Json.parse? body).bind l.page = some ((l.following items after).take l.size)

theorem size_pos (l : Listing α) : 0 < l.size := Nat.le_max_right _ _

theorem following_getLast? (hn : ((done ++ rest).map l.cursor).Nodup) :
    l.following (done ++ rest) (done.getLast?.map l.cursor) = rest := by
  rcases List.eq_nil_or_concat done with rfl | ⟨init, a, rfl⟩
  · rfl
  · rw [List.concat_eq_append, List.append_assoc, List.map_append, List.nodup_append] at hn
    have hinit : ∀ b ∈ init, decide (l.cursor b ≠ l.cursor a) = true := by
      intro b hb
      exact decide_eq_true (hn.2.2 _ (List.mem_map_of_mem hb) _ (by simp))
    rw [List.concat_eq_append, List.getLast?_concat, Option.map_some, following, List.append_assoc,
      List.dropWhile_append_of_pos hinit]
    simp

theorem next?_of_short {page : List α} {seen : List String} (h : page.length < l.size) :
    l.next? seen page = none := by
  have hfalse (cursor : String) :
      (l.size ≤ page.length && cursor ≠ "" && cursor ∉ seen : Bool) = false := by
    simp [Nat.not_le.mpr h]
  simp only [next?, hfalse]
  cases page.getLast? <;> rfl

theorem next?_of_full {page : List α} {seen : List String} {a : α} (ha : page.getLast? = some a)
    (h : l.size ≤ page.length) (hne : l.cursor a ≠ "") (hnew : l.cursor a ∉ seen) :
    l.next? seen page = some (l.cursor a) := by
  simp [next?, ha, h, hne, hnew]

theorem exists_getLast?_of_full (h : l.size ≤ rest.length) :
    ∃ a, (rest.take l.size).getLast? = some a := by
  have hlength : (rest.take l.size).length = l.size := List.length_take_of_le h
  cases hlast : (rest.take l.size).getLast? with
  | some a => exact ⟨a, rfl⟩
  | none =>
    rw [List.getLast?_eq_none_iff.mp hlast] at hlength
    exact absurd hlength.symm (Nat.ne_of_gt l.size_pos)

/-- No item has the cursor of an earlier one, so that a full page always leads on. -/
theorem next?_of_nodup {seen : List String} {a : α} (hn : ((done ++ rest).map l.cursor).Nodup)
    (hne : ∀ a ∈ done ++ rest, l.cursor a ≠ "")
    (hseen : ∀ cursor ∈ seen, cursor ∈ done.map l.cursor) (hfull : l.size ≤ rest.length)
    (ha : (rest.take l.size).getLast? = some a) :
    l.next? seen (rest.take l.size) = some (l.cursor a) := by
  have hmem : a ∈ rest := List.mem_of_mem_take (List.mem_of_getLast? ha)
  have hlength : (rest.take l.size).length = l.size := List.length_take_of_le hfull
  have hnew : l.cursor a ∉ seen := by
    intro hin
    rw [List.map_append, List.nodup_append] at hn
    exact hn.2.2 _ (hseen _ hin) _ (List.mem_map_of_mem hmem) rfl
  apply next?_of_full ha
  · exact Nat.le_of_eq hlength.symm
  · exact hne a (List.mem_append_right done hmem)
  · exact hnew

theorem mem_map_cursor_of_seen {page : List α} {seen : List String} {a : α}
    (hseen : ∀ cursor ∈ seen, cursor ∈ done.map l.cursor) (ha : page.getLast? = some a) :
    ∀ cursor ∈ l.cursor a :: seen, cursor ∈ (done ++ page).map l.cursor := by
  intro cursor hcursor
  rw [List.map_append, List.mem_append]
  rcases List.mem_cons.mp hcursor with rfl | hcursor
  · exact .inr (List.mem_map_of_mem (List.mem_of_getLast? ha))
  · exact .inl (hseen cursor hcursor)

/-- What is asked for a page. -/
def Asks (l : Listing α) (target : String) (after : Option String) (r : Http.Request) : Prop :=
  r.method = .get ∧ Url.pathOf r.target = Url.pathOf target ∧
    Url.paramsOf r.target = Url.paramsOf target ++ l.params after

/-- A page is asked for with one request, before which a token may be asked for. -/
theorem Tells.getJson_eq_ok (h : l.Tells k valid target items) (hk : k.Grants valid tokenTarget)
    (hs : s.Keeps valid) (after : Option String) :
    ∃ s' asked r, k.getJson l.url (l.params after) l.page s =
        .ok ((l.following items after).take l.size) s' ∧ s'.Keeps valid ∧
      s'.log = s.log ++ asked ++ [r] ∧ (∀ r ∈ asked, r = k.tokenRequest tokenTarget) ∧
      l.Asks target after r := by
  obtain ⟨token, s₁, asked, htoken, hvalid, hs₁, hlog, hasked⟩ := hk.token_eq_ok hs
  obtain ⟨wanted, hwanted, hpath, hparams⟩ := Url.target?_params h.reached (l.params after)
  obtain ⟨status, body, hreply, hsuccess, hpage⟩ := h.answers s₁.log hvalid hpath hparams
  have hsend := Connection.send_eq_ok_iff.mpr
    ⟨token, s₁, wanted, status, htoken, hk.sendable token hvalid, hwanted, hreply, hsuccess, rfl⟩
  let r := Connection.authorized token .get wanted .none
  refine ⟨{ s₁ with log := s₁.log ++ [r] }, asked, r, ?_, hs₁, ?_, hasked, rfl, hpath, hparams⟩
  · simp only [Connection.getJson, hsend, hpage, r]
  · simp only [hlog]

/-- The cursors that the pages of a listing are asked for with, from a place on. -/
def cursors (l : Listing α) (done rest : List α) : List (Option String) :=
  (List.range (rest.length / l.size + 1)).map fun i =>
    (done ++ rest.take (i * l.size)).getLast?.map l.cursor

theorem cursors_of_short (h : rest.length < l.size) :
    l.cursors done rest = [done.getLast?.map l.cursor] := by
  simp [cursors, Nat.div_eq_of_lt h]

theorem cursors_of_full (h : l.size ≤ rest.length) :
    l.cursors done rest =
      done.getLast?.map l.cursor :: l.cursors (done ++ rest.take l.size) (rest.drop l.size) := by
  have hdiv : rest.length / l.size = (rest.drop l.size).length / l.size + 1 := by
    rw [List.length_drop, Nat.div_eq_sub_div l.size_pos h]
  rw [cursors, hdiv, List.range_succ_eq_map, List.map_cons, List.map_map, cursors]
  congr 1
  · simp
  · apply List.map_congr_left
    intro i _
    simp only [Function.comp_apply]
    rw [Nat.succ_mul, Nat.add_comm, List.take_add, List.append_assoc]

/-- The requests ask for pages with the cursors, in turn, and for tokens in between. -/
def Exchanged (l : Listing α) (k : Connection) (tokenTarget target : String)
    (cursors : List (Option String)) (sent : List Http.Request) : Prop :=
  List.Forall₂ (l.Asks target) cursors (sent.filter (·.method = .get)) ∧
    ∀ r ∈ sent, r.method ≠ .get → r = k.tokenRequest tokenTarget

theorem Exchanged.cons {asked sent : List Http.Request} {r : Http.Request} {after : Option String}
    {cursors : List (Option String)} (hasked : ∀ r ∈ asked, r = k.tokenRequest tokenTarget)
    (hr : l.Asks target after r) (h : l.Exchanged k tokenTarget target cursors sent) :
    l.Exchanged k tokenTarget target (after :: cursors) (asked ++ r :: sent) := by
  have hnone : asked.filter (·.method = .get) = [] := by
    rw [List.filter_eq_nil_iff]
    intro r hr
    simp [hasked r hr, Connection.tokenRequest]
  constructor
  · rw [List.filter_append, hnone, List.nil_append, List.filter_cons_of_pos (by simp [hr.1])]
    exact .cons hr h.1
  · intro q hq hmethod
    rcases List.mem_append.mp hq with hq | hq
    · exact hasked q hq
    · rcases List.mem_cons.mp hq with rfl | hq
      · exact absurd hr.1 hmethod
      · exact h.2 q hq hmethod

theorem Exchanged.nil : l.Exchanged k tokenTarget target [] [] := by
  constructor
  · exact .nil
  · simp

/-- The invariant of a listing that is under way: what is done has been told, and the cursors that
were seen are among its cursors. -/
theorem Tells.itemsAfter?_eq_ok (h : l.Tells k valid target (done ++ rest))
    (hk : k.Grants valid tokenTarget) (hn : ((done ++ rest).map l.cursor).Nodup)
    (hne : ∀ a ∈ done ++ rest, l.cursor a ≠ "") (hs : s.Keeps valid) {seen : List String}
    (hseen : ∀ cursor ∈ seen, cursor ∈ done.map l.cursor) :
    ∃ s' sent, l.itemsAfter? k (done.getLast?.map l.cursor) seen s = some (.ok rest s') ∧
      s'.Keeps valid ∧ s'.log = s.log ++ sent ∧
      l.Exchanged k tokenTarget target (l.cursors done rest) sent := by
  induction hlen : rest.length using Nat.strongRecOn generalizing done rest s seen with
  | ind n ih =>
    obtain ⟨s₁, asked, r, hget, hs₁, hlog, hasked, hr⟩ :=
      h.getJson_eq_ok hk hs (done.getLast?.map l.cursor)
    rw [following_getLast? hn] at hget
    rw [itemsAfter?, hget]
    by_cases hshort : rest.length < l.size
    · have htake : rest.take l.size = rest := List.take_of_length_le (Nat.le_of_lt hshort)
      simp only [htake, next?_of_short hshort]
      refine ⟨s₁, asked ++ [r], rfl, hs₁, by rw [hlog, List.append_assoc], ?_⟩
      rw [cursors_of_short hshort]
      exact .cons hasked hr .nil
    · have hfull : l.size ≤ rest.length := Nat.le_of_not_lt hshort
      have happend : done ++ rest = done ++ rest.take l.size ++ rest.drop l.size := by
        rw [List.append_assoc, List.take_append_drop]
      obtain ⟨a, ha⟩ := exists_getLast?_of_full hfull
      have hnext := next?_of_nodup hn hne hseen hfull ha
      have hlast : (done ++ rest.take l.size).getLast? = some a := by
        rw [List.getLast?_append, ha, Option.some_or]
      have hless : (rest.drop l.size).length < n := by
        rw [List.length_drop]
        have := l.size_pos
        omega
      rw [happend] at h hn hne
      have hseen' := mem_map_cursor_of_seen hseen ha
      obtain ⟨s₂, sent, hrest, hs₂, hlog', hsent⟩ := ih _ hless h hn hne hs₁ hseen' rfl
      rw [hlast, Option.map_some] at hrest
      refine ⟨s₂, asked ++ r :: sent, ?_, hs₂, ?_, ?_⟩
      · simp only [hnext, hrest, Option.bind_eq_bind, Option.bind_some]
        rw [List.take_append_drop]
        rfl
      · simp only [hlog', hlog, List.append_assoc, List.singleton_append]
      · rw [cursors_of_full hfull]
        exact .cons hasked hr hsent

theorem Tells.items_eq_ok (h : l.Tells k valid target items) (hk : k.Grants valid tokenTarget)
    (hs : s.Keeps valid) (hn : (items.map l.cursor).Nodup) (hne : ∀ a ∈ items, l.cursor a ≠ "") :
    ∃ s', l.items k s = .ok items s' ∧ s'.Keeps valid := by
  have hstart : l.Tells k valid target ([] ++ items) := h
  have hseen : ∀ cursor ∈ ([] : List String), cursor ∈ ([] : List α).map l.cursor := by simp
  obtain ⟨s', sent, hitems, hs', -, -⟩ := hstart.itemsAfter?_eq_ok hk hn hne hs hseen
  rw [List.getLast?_nil, Option.map_none] at hitems
  exact ⟨s', by rw [Listing.items, hitems, Option.getD_some], hs'⟩

/--
A listing whose items have cursors of their own is told whole and in order. It takes one request
for each full page and one more, and each request goes on after the last item before it.
-/
theorem items_eq_ok_of_tells (h : l.Tells k valid target items) (hk : k.Grants valid tokenTarget)
    (hs : s.Keeps valid) (hn : (items.map l.cursor).Nodup) (hne : ∀ a ∈ items, l.cursor a ≠ "") :
    ∃ s' sent, l.items k s = .ok items s' ∧ s'.log = s.log ++ sent ∧
      (sent.filter (·.method = .get)).length = items.length / max l.pageSize 1 + 1 ∧
      List.Forall₂ (fun i r => Url.pathOf r.target = Url.pathOf target ∧
          Url.paramsOf r.target = Url.paramsOf target ++ l.filters ++
            [("pageSize", toString (max l.pageSize 1))] ++
            ((items.take (i * max l.pageSize 1)).getLast?.map
              fun a => ("pageAfter", l.cursor a)).toList)
        (List.range (items.length / max l.pageSize 1 + 1)) (sent.filter (·.method = .get)) ∧
      ∀ r ∈ sent, r.method ≠ .get → r = k.tokenRequest tokenTarget := by
  have hstart : l.Tells k valid target ([] ++ items) := h
  have hseen : ∀ cursor ∈ ([] : List String), cursor ∈ ([] : List α).map l.cursor := by simp
  obtain ⟨s', sent, hitems, -, hlog, hpages, hothers⟩ :=
    hstart.itemsAfter?_eq_ok hk hn hne hs hseen
  refine ⟨s', sent, ?_, hlog, ?_, ?_, hothers⟩
  · rw [List.getLast?_nil, Option.map_none] at hitems
    rw [Listing.items, hitems, Option.getD_some]
  · rw [← hpages.length_eq, cursors, List.length_map, List.length_range, size]
  · rw [cursors, List.forall₂_map_left_iff] at hpages
    refine hpages.imp fun i r hr => ⟨hr.2.1, ?_⟩
    rw [hr.2.2, params, Text.Decimal.ofList_ofNat, List.nil_append, Option.map_map]
    simp only [size, List.append_assoc]
    rfl

/-- Two letters, told one by one. -/
def letters : Listing String where
  url := "http://cp/v1/letters"
  filters := [("kind", "a&b")]
  pageSize := 1
  page := Json.texts?
  cursor := id

/-- The letter after the one that is asked for. -/
def lettersReply (asked : String) : List UInt8 :=
  match (Url.paramsOf asked).lookup "pageAfter" with
  | none => Text.utf8 "[\"a\"]".toList
  | some "a" => Text.utf8 "[\"b\"]".toList
  | some _ => Text.utf8 "[]".toList

def lettersServer : Http.Server := fun _ request =>
  if request.method = .post then .complete 200 (Text.utf8 "\x7b\"access_token\":\"t\"\x7d".toList)
  else .complete 200 (lettersReply request.target)

def lettersConnection : Connection := ⟨.of "http://cp" "a" "b", lettersServer⟩

theorem lettersReply_eq {asked : String} {after : Option String}
    (h : Url.paramsOf asked = letters.params after) :
    (Json.parse? (lettersReply asked)).bind letters.page =
      some ((letters.following ["a", "b"] after).take letters.size) := by
  have ha : Json.parse? (Text.utf8 "[\"a\"]".toList) = some (.arr [.str "a"]) := by cbv
  have hb : Json.parse? (Text.utf8 "[\"b\"]".toList) = some (.arr [.str "b"]) := by cbv
  have hnil : Json.parse? (Text.utf8 "[]".toList) = some (.arr []) := by cbv
  unfold lettersReply
  rw [h]
  cases after with
  | none =>
    have hlookup : (letters.params none).lookup "pageAfter" = none := by decide
    rw [hlookup]
    simp only [ha]
    rfl
  | some c =>
    have hlookup : (letters.params (some c)).lookup "pageAfter" = some c := by rfl
    rw [hlookup]
    by_cases hca : c = "a"
    · subst hca
      simp only [hb]
      rfl
    · have hfollowing : letters.following ["a", "b"] (some c) = [] := by
        by_cases hcb : c = "b"
        · subst hcb
          rfl
        · simp [following, letters, Ne.symm hca, Ne.symm hcb]
      rw [hfollowing]
      split
      · contradiction
      · next hc => exact absurd (Option.some.inj hc) hca
      · simp only [hnil]
        rfl

theorem letters_tells :
    letters.Tells lettersConnection (fun token => token.secret = "t") "/v1/letters" ["a", "b"] := by
  refine ⟨by decide +kernel, ?_⟩
  intro log token _ asked after _ hparams
  exact ⟨200, lettersReply asked, rfl, rfl, lettersReply_eq hparams⟩

theorem letters_grants :
    lettersConnection.Grants (fun token => token.secret = "t") "/v1/users/oidc/token" :=
  Connection.grants_of_server (by decide +kernel) fun _ => rfl

/-- The letters are told in two pages, and a third one shows that there are no more. -/
theorem items_letters :
    letters.Tells lettersConnection (fun token => token.secret = "t") "/v1/letters" ["a", "b"] ∧
    lettersConnection.Grants (fun token => token.secret = "t") "/v1/users/oidc/token" ∧
    ∃ s' sent, letters.items lettersConnection {} = .ok ["a", "b"] s' ∧ s'.log = sent ∧
      (sent.filter (·.method = .get)).length = 3 := by
  have hs : Session.Keeps {} fun token => token.secret = "t" := by simp [Session.Keeps]
  have hn : (["a", "b"].map letters.cursor).Nodup := by decide
  have hne : ∀ a ∈ ["a", "b"], letters.cursor a ≠ "" := by decide
  obtain ⟨s', sent, hitems, hlog, hcount, -, -⟩ :=
    items_eq_ok_of_tells letters_tells letters_grants hs hn hne
  exact ⟨letters_tells, letters_grants, s', sent, hitems, hlog, hcount⟩

end Listing
end ControlPlane
