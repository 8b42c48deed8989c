import ControlPlane.Proofs.Url.Query

/-!
The targets of plain paths. A path of plain segments is added to an address as it is, so that
different paths lead to different places.
-/
namespace ControlPlane.Url

/-- Letters, digits and two signs, which stand for themselves everywhere in an address. -/
def isPlainChar (c : Char) : Bool := c.isAlphanum || c = '-' || c = '_'

/-- A segment that neither leads elsewhere nor holds anything to escape. -/
def IsPlain (s : List Char) : Prop := s ≠ [] ∧ ∀ c ∈ s, isPlainChar c

theorem isPlain_of_all {s : List Char} (hne : s ≠ []) (h : s.all isPlainChar) : IsPlain s :=
  ⟨hne, List.all_eq_true.mp h⟩

/-- The segments of a path, each behind a slash. -/
def joined (segments : List (List Char)) : List Char := segments.flatMap ('/' :: ·)

/-- An address that paths can be added to: a scheme, an authority and the beginning of a path. -/
structure IsBase (base : String) (scheme authority place : List Char) : Prop where
  parts : base.toList = scheme ++ ':' :: '/' :: '/' :: (authority ++ place)
  web : isScheme scheme
  host : isAuthority authority
  ends : ∀ c ∈ authority, ¬ isSlash c ∧ c ≠ '?' ∧ c ≠ '#'
  begins : ∀ c ∈ place.head?, isSlash c
  noQuery : ∀ c ∈ place, c ≠ '?' ∧ c ≠ '#'
  printable : ∀ c ∈ base.toList, 0x20 < c.toNat

theorem isPlainChar_bounds {c : Char} (h : isPlainChar c) : 0x20 < c.toNat ∧ c.toNat < 128 := by
  have hbounds : ∀ c : Char, c.isAlphanum → 0x30 ≤ c.toNat ∧ c.toNat < 128 := by
    intro c hc
    simp only [Char.isAlphanum, Char.isAlpha, Char.isUpper, Char.isLower, Char.isDigit,
      Bool.or_eq_true, Bool.and_eq_true, decide_eq_true_eq, UInt32.le_iff_toNat_le, ge_iff_le,
      Char.reduceVal, UInt32.reduceToNat] at hc
    have htoNat : c.val.toNat = c.toNat := rfl
    omega
  simp only [isPlainChar, Bool.or_eq_true, decide_eq_true_eq] at h
  rcases h with (h | rfl) | rfl
  · have := hbounds c h
    omega
  · decide
  · decide

/-- What holds of the plain characters is checked one by one. -/
theorem forall_isPlainChar {p : Char → Prop} (h : ∀ n < 128, isPlainChar (Char.ofNat n) →
    p (Char.ofNat n)) {c : Char} (hc : isPlainChar c) : p c := by
  have hn := (isPlainChar_bounds hc).2
  have hof : Char.ofNat c.toNat = c := Char.ofNat_toNat c
  rw [← hof] at hc ⊢
  exact h c.toNat hn hc

set_option maxRecDepth 4000 in
theorem not_sign_of_isPlainChar {c : Char} (hc : isPlainChar c) :
    ¬ isSlash c ∧ c ≠ '?' ∧ c ≠ '#' ∧ c ≠ '%' ∧ c ≠ '.' := by
  revert c
  exact forall_isPlainChar (p := fun c => ¬ isSlash c ∧ c ≠ '?' ∧ c ≠ '#' ∧ c ≠ '%' ∧ c ≠ '.')
    (by decide)

set_option maxRecDepth 8000 in
theorem escapeUnless_of_isPlainChar {c : Char} (hc : isPlainChar c) :
    escapeUnless isPathByte [c] = [c] := by
  revert c
  exact forall_isPlainChar (p := fun c => escapeUnless isPathByte [c] = [c]) (by decide)

theorem escapeUnless_of_isPlain {s : List Char} (h : ∀ c ∈ s, isPlainChar c) :
    escapeUnless isPathByte s = s := by
  induction s with
  | nil => rfl
  | cons c s ih =>
    rw [List.forall_mem_cons] at h
    have hcons : escapeUnless isPathByte (c :: s) =
        escapeUnless isPathByte [c] ++ escapeUnless isPathByte s := by
      simp only [escapeUnless, Text.utf8, List.flatMap_cons, List.flatMap_nil, List.append_nil,
        List.flatMap_append]
    rw [hcons, escapeUnless_of_isPlainChar h.1, ih h.2]
    rfl

theorem not_dots_of_isPlain {s : List Char} (h : IsPlain s) :
    ¬ isSingleDot s ∧ ¬ isDoubleDot s := by
  obtain ⟨hne, hs⟩ := h
  cases s with
  | nil => exact absurd rfl hne
  | cons c s =>
    obtain ⟨-, -, -, hpercent, hdot⟩ := not_sign_of_isPlainChar (hs c List.mem_cons_self)
    have hcons : unescapeDots (c :: s) = c :: unescapeDots s := by
      rw [unescapeDots]
      · intro cs hc
        exact absurd hc hpercent
      · intro cs hc
        exact absurd hc hpercent
    simp [isSingleDot, isDoubleDot, hcons, hdot]

/-- Follows segments that others come after. -/
def follow (place : List (List Char)) : List (List Char) → List (List Char)
  | [] => place
  | s :: rest =>
    if isDoubleDot s then follow (place.drop 1) rest
    else if isSingleDot s then follow place rest
    else follow (s :: place) rest

theorem resolveFrom_append (place ss : List (List Char)) {ts : List (List Char)} (ht : ts ≠ []) :
    resolveFrom place (ss ++ ts) = resolveFrom (follow place ss) ts := by
  induction ss generalizing place with
  | nil => rfl
  | cons s ss ih =>
    have hne : ss ++ ts ≠ [] := List.append_ne_nil_of_right_ne_nil ss ht
    rw [List.cons_append, resolveFrom]
    · simp only [ih, follow]
      split_ifs <;> rfl
    · exact hne

theorem resolveFrom_of_isPlain (place : List (List Char)) {ts : List (List Char)}
    (ht : ∀ s ∈ ts, IsPlain s) : resolveFrom place ts = ts.reverse ++ place := by
  induction ts generalizing place with
  | nil => rfl
  | cons s ts ih =>
    rw [List.forall_mem_cons] at ht
    obtain ⟨hsingle, hdouble⟩ := not_dots_of_isPlain ht.1
    cases ts with
    | nil => simp only [resolveFrom, if_neg hsingle, if_neg hdouble, List.reverse_singleton,
        List.singleton_append]
    | cons s' ts =>
      rw [resolveFrom]
      · rw [if_neg hdouble, if_neg hsingle, ih _ ht.2, List.append_cons, ← List.reverse_cons]
      · simp

theorem pieces_append_joined (cs : List Char) {ts : List (List Char)} (ht : ∀ s ∈ ts, IsPlain s) :
    Text.pieces isSlash (cs ++ joined ts) = Text.pieces isSlash cs ++ ts := by
  induction ts generalizing cs with
  | nil => simp [joined]
  | cons s ts ih =>
    rw [List.forall_mem_cons] at ht
    have hs : Text.pieces isSlash s = [s] :=
      Text.pieces_of_forall_not fun c hc => (not_sign_of_isPlainChar (ht.1.2 c hc)).1
    have hjoined : joined (s :: ts) = '/' :: (s ++ joined ts) := rfl
    rw [hjoined, Text.pieces_append_cons (by decide), ih _ ht.2, hs]
    rfl

/-- The segments that an address begins with. -/
def segmentsOf (place : List Char) : List (List Char) :=
  match place with
  | [] => []
  | _ :: place => Text.pieces isSlash place

theorem pieces_drop_append_joined (place : List Char) {ts : List (List Char)} (hne : ts ≠ [])
    (ht : ∀ s ∈ ts, IsPlain s) :
    Text.pieces isSlash ((place ++ joined ts).drop 1) = segmentsOf place ++ ts := by
  cases place with
  | cons c place => exact pieces_append_joined place ht
  | nil =>
    cases ts with
    | nil => exact absurd rfl hne
    | cons s ts =>
      rw [List.forall_mem_cons] at ht
      have hs : Text.pieces isSlash s = [s] :=
        Text.pieces_of_forall_not fun c hc => (not_sign_of_isPlainChar (ht.1.2 c hc)).1
      have hdrop : ([] ++ joined (s :: ts)).drop 1 = s ++ joined ts := rfl
      rw [hdrop, pieces_append_joined s ht.2, hs]
      rfl

/-- What an address puts in front of the paths that are added to it. -/
def rootOf (place : List Char) : List Char :=
  (follow [] (segmentsOf place)).reverse.flatMap fun s => '/' :: escapeUnless isPathByte s

theorem flatMap_escapeUnless {ts : List (List Char)} (ht : ∀ s ∈ ts, IsPlain s) :
    ts.flatMap (fun s => '/' :: escapeUnless isPathByte s) = joined ts := by
  refine List.flatMap_congr fun s hs => ?_
  rw [escapeUnless_of_isPlain (ht s hs).2]

theorem path_append_joined (place : List Char) {ts : List (List Char)} (hne : ts ≠ [])
    (ht : ∀ s ∈ ts, IsPlain s) : path (place ++ joined ts) = rootOf place ++ joined ts := by
  rw [path, pieces_drop_append_joined place hne ht, resolve, resolveFrom_append _ _ hne,
    resolveFrom_of_isPlain _ ht, List.reverse_append, List.reverse_reverse]
  simp only [List.flatMap_append, flatMap_escapeUnless ht, rootOf]

theorem not_mark_of_mem_joined {ts : List (List Char)} (ht : ∀ s ∈ ts, IsPlain s) :
    ∀ c ∈ joined ts, c ≠ '?' ∧ c ≠ '#' ∧ 0x20 < c.toNat := by
  intro c hc
  simp only [joined, List.mem_flatMap, List.mem_cons] at hc
  obtain ⟨s, hs, rfl | hc⟩ := hc
  · decide
  · have hplain := (ht s hs).2 c hc
    obtain ⟨-, hquery, hfragment, -⟩ := not_sign_of_isPlainChar hplain
    exact ⟨hquery, hfragment, (isPlainChar_bounds hplain).1⟩

theorem filter_of_printable {cs : List Char} (h : ∀ c ∈ cs, 0x20 < c.toNat) :
    cs.filter (fun c => c ≠ '\t' && c ≠ '\n' && c ≠ '\r') = cs := by
  rw [List.filter_eq_self]
  intro c hc
  have hlt := h c hc
  have hne (d : Char) (hd : d.toNat ≤ 0x20) : c ≠ d := by
    rintro rfl
    omega
  simp [hne '\t' (by decide), hne '\n' (by decide), hne '\r' (by decide)]

theorem clean_of_printable {cs : List Char} (h : ∀ c ∈ cs, 0x20 < c.toNat) : clean cs = cs := by
  have hdrop (cs : List Char) (h : ∀ c ∈ cs, 0x20 < c.toNat) :
      cs.dropWhile (fun c => decide (c.toNat ≤ 0x20)) = cs := by
    cases cs with
    | nil => rfl
    | cons c cs =>
      have hc := h c List.mem_cons_self
      exact List.dropWhile_cons_of_neg (by simpa using hc)
  have htrim : Text.trimWhile (fun c => decide (c.toNat ≤ 0x20)) cs = cs := by
    rw [Text.trimWhile, Text.dropEndWhile, hdrop cs h, hdrop, List.reverse_reverse]
    intro c hc
    exact h c (List.mem_reverse.mp hc)
  rw [clean, htrim, filter_of_printable h]

theorem afterAuthority?_of_parts {scheme authority rest : List Char} (hweb : isScheme scheme)
    (hhost : isAuthority authority)
    (hends : ∀ c ∈ authority, ¬ isSlash c ∧ c ≠ '?' ∧ c ≠ '#')
    (hbegins : ∀ c ∈ rest.head?, isSlash c) :
    afterAuthority? (scheme ++ ':' :: '/' :: '/' :: (authority ++ rest)) = some rest := by
  have hcolon : ∀ c ∈ scheme, decide (c ≠ ':') = true := by
    intro c hc
    have hlower : c.toLower ∈ scheme.map Char.toLower := List.mem_map_of_mem hc
    refine decide_eq_true ?_
    rintro rfl
    simp only [isScheme, Bool.or_eq_true, decide_eq_true_eq] at hweb
    rcases hweb with hweb | hweb <;> rw [hweb] at hlower <;> revert hlower <;> decide
  have hspan : (scheme ++ ':' :: '/' :: '/' :: (authority ++ rest)).span (· ≠ ':') =
      (scheme, ':' :: '/' :: '/' :: (authority ++ rest)) := by
    rw [List.span_eq_takeWhile_dropWhile, List.takeWhile_append_of_pos hcolon,
      List.dropWhile_append_of_pos hcolon]
    simp
  have hauthority : authority ≠ [] := by
    rintro rfl
    contradiction
  have hslashes : ('/' :: '/' :: (authority ++ rest)).dropWhile isSlash = authority ++ rest := by
    obtain ⟨c, cs, rfl⟩ := List.exists_cons_of_ne_nil hauthority
    have hc := (hends c List.mem_cons_self).1
    simp only [List.cons_append, List.dropWhile_cons, if_neg hc]
    rfl
  have htake : (authority ++ rest).takeWhile (fun c => !isSlash c && c ≠ '?' && c ≠ '#') =
      authority := by
    have hall : ∀ c ∈ authority, (!isSlash c && c ≠ '?' && c ≠ '#') = true := by
      intro c hc
      obtain ⟨hslash, hquery, hfragment⟩ := hends c hc
      simp [hslash, hquery, hfragment]
    rw [List.takeWhile_append_of_pos hall]
    cases rest with
    | nil => simp
    | cons c rest =>
      have hc := hbegins c rfl
      simp [hc]
  unfold afterAuthority?
  rw [hspan]
  simp only [if_pos hweb, hslashes, htake, if_pos hhost, List.drop_left]

namespace IsBase
variable {base : String} {scheme authority place : List Char}

theorem isSlash_of_mem_head? (hbase : IsBase base scheme authority place)
    {ts : List (List Char)} (hne : ts ≠ []) (rest : List Char) :
    ∀ c ∈ (place ++ joined ts ++ rest).head?, isSlash c := by
  intro c hc
  cases place with
  | cons d place => exact hbase.begins c hc
  | nil =>
    obtain ⟨s, ts, rfl⟩ := List.exists_cons_of_ne_nil hne
    obtain rfl : '/' = c := Option.some.inj hc
    decide

theorem exists_target? (hbase : IsBase base scheme authority place) {url : String}
    {rest : List Char}
    (hclean : clean url.toList = scheme ++ ':' :: '/' :: '/' :: (authority ++ rest))
    (hbegins : ∀ c ∈ rest.head?, isSlash c) :
    ∃ query, target? url [] = some (String.ofList
        (path ((rest.takeWhile (· ≠ '#')).takeWhile (· ≠ '?')) ++ tail query)) ∧
      ((∀ c ∈ rest, c ≠ '?') → query = none) := by
  unfold target?
  rw [hclean, afterAuthority?_of_parts hbase.web hbase.host hbase.ends hbegins]
  refine ⟨_, rfl, fun hmarks => ?_⟩
  have hown : (rest.takeWhile (· ≠ '#')).dropWhile (· ≠ '?') = [] := by
    refine List.dropWhile_eq_nil_iff.mpr fun c hc => decide_eq_true ?_
    exact hmarks c ((List.takeWhile_sublist _).subset hc)
  rw [hown]
  rfl

end IsBase

/-- A plain path leads to a place of its own below the address that it is added to. -/
theorem target?_of_isBase {base path : String} {scheme authority place : List Char}
    (hbase : IsBase base scheme authority place) {ts : List (List Char)} (hne : ts ≠ [])
    (ht : ∀ s ∈ ts, IsPlain s) (hpath : path.toList = joined ts) :
    target? (base ++ path) [] = some (String.ofList (rootOf place) ++ path) := by
  have hmarks := not_mark_of_mem_joined ht
  have hclean : clean (base ++ path).toList =
      scheme ++ ':' :: '/' :: '/' :: (authority ++ (place ++ joined ts)) := by
    rw [clean_of_printable]
    · rw [String.toList_append, hbase.parts, hpath]
      simp only [List.append_assoc, List.cons_append]
    · intro c hc
      rw [String.toList_append, List.mem_append, hpath] at hc
      rcases hc with hc | hc
      · exact hbase.printable c hc
      · exact (hmarks c hc).2.2
  have hmark : ∀ c ∈ place ++ joined ts, c ≠ '?' ∧ c ≠ '#' := by
    intro c hc
    rcases List.mem_append.mp hc with hc | hc
    · exact hbase.noQuery c hc
    · exact ⟨(hmarks c hc).1, (hmarks c hc).2.1⟩
  have hbegins := hbase.isSlash_of_mem_head? hne []
  rw [List.append_nil] at hbegins
  obtain ⟨query, htarget, hquery⟩ := hbase.exists_target? hclean hbegins
  obtain rfl := hquery fun c hc => (hmark c hc).1
  have hsent : (place ++ joined ts).takeWhile (· ≠ '#') = place ++ joined ts :=
    List.takeWhile_eq_self_iff.mpr fun c hc => decide_eq_true (hmark c hc).2
  have hplace : (place ++ joined ts).takeWhile (· ≠ '?') = place ++ joined ts :=
    List.takeWhile_eq_self_iff.mpr fun c hc => decide_eq_true (hmark c hc).1
  rw [htarget, hsent, hplace, path_append_joined place hne ht, tail, List.append_nil,
    String.ofList_append, ← hpath, String.ofList_toList]

end ControlPlane.Url
