import ControlPlane.Proofs.Url.Base
import ControlPlane.Proofs.Url.Escapes
import ControlPlane.Proofs.Url.Query

/-!
Names at the end of an address. A name that is added as it is leads to a place of its own if it is a
segment by itself, and only then.
-/
namespace ControlPlane

namespace Text

theorem dropEndWhile_sublist (p : Char → Bool) (cs : List Char) :
    (dropEndWhile p cs).Sublist cs := by
  have h := (List.dropWhile_sublist p (l := cs.reverse)).reverse
  rwa [List.reverse_reverse] at h

theorem not_of_mem_getLast?_dropEndWhile {p : Char → Bool} {cs : List Char} {c : Char}
    (hc : c ∈ (dropEndWhile p cs).getLast?) : ¬ p c := by
  rw [dropEndWhile, List.getLast?_reverse] at hc
  have hhead := List.head?_dropWhile_not p cs.reverse
  rw [hc] at hhead
  simpa using hhead

theorem dropEndWhile_eq_self {p : Char → Bool} {cs : List Char}
    (h : ∀ c ∈ cs.getLast?, ¬ p c) : dropEndWhile p cs = cs := by
  have hrev : cs.reverse.dropWhile p = cs.reverse := by
    rw [← List.head?_reverse] at h
    cases hcs : cs.reverse with
    | nil => rfl
    | cons c rest =>
      rw [hcs] at h
      exact List.dropWhile_cons_of_neg (h c rfl)
  rw [dropEndWhile, hrev, List.reverse_reverse]

theorem dropEndWhile_append (p : Char → Bool) {cs : List Char} (h : dropEndWhile p cs = cs)
    (ds : List Char) : dropEndWhile p (cs ++ ds) = cs ++ dropEndWhile p ds := by
  have hcs : cs.reverse.dropWhile p = cs.reverse := by
    rw [← List.reverse_eq_iff]
    exact h
  rw [dropEndWhile, dropEndWhile, List.reverse_append, List.dropWhile_append, hcs]
  cases hds : ds.reverse.dropWhile p <;> simp

end Text

namespace Url
open Text (unescape utf8)

/-- A name that is a segment of a path by itself. -/
structure IsSegment (s : List Char) : Prop where
  nonempty : s ≠ []
  whole : ∀ c ∈ s, ¬ isSlash c ∧ c ∉ ['?', '#', '\t', '\n', '\r']
  ends : ∀ c ∈ s.getLast?, 0x20 < c.toNat
  stays : ¬ isSingleDot s ∧ ¬ isDoubleDot s
  unescaped : unescape (utf8 s) = utf8 s

theorem isSegment_iff {s : List Char} : IsSegment s ↔
    s ≠ [] ∧ (s.all fun c => !isSlash c && c ∉ ['?', '#', '\t', '\n', '\r']) ∧
      (s.getLast?.all fun c => 0x20 < c.toNat) ∧ ¬ isSingleDot s ∧ ¬ isDoubleDot s ∧
      unescape (utf8 s) = utf8 s := by
  simp only [List.all_eq_true, Option.all_eq_true, Bool.and_eq_true, Bool.not_eq_true',
    decide_eq_true_eq, ← Bool.not_eq_true]
  constructor
  · rintro ⟨hne, hwhole, hends, hstays, hplain⟩
    exact ⟨hne, hwhole, hends, hstays.1, hstays.2, hplain⟩
  · rintro ⟨hne, hwhole, hends, hsingle, hdouble, hplain⟩
    exact ⟨hne, hwhole, hends, ⟨hsingle, hdouble⟩, hplain⟩

instance (s : List Char) : Decidable (IsSegment s) := decidable_of_iff _ isSegment_iff.symm

/-- A target is one segment below a path, without a query, and the segment stands for the name. -/
def Names (path target name : String) : Prop :=
  ∃ segment : List Char, target.toList = path.toList ++ segment ∧ segment ≠ [] ∧
    (∀ c ∈ segment, c ≠ '/' ∧ c ≠ '?') ∧ unescape (utf8 segment) = utf8 name.toList

theorem Names.name_eq {path target name name' : String} (h : Names path target name)
    (h' : Names path target name') : name = name' := by
  obtain ⟨segment, htarget, -, -, hname⟩ := h
  obtain ⟨segment', htarget', -, -, hname'⟩ := h'
  obtain rfl := List.append_cancel_left (htarget.symm.trans htarget')
  exact String.toList_inj.mp (Text.utf8_injective (hname.symm.trans hname'))

/-- What is left of a name at the end of an address. -/
def written (name : List Char) : List Char :=
  (Text.dropEndWhile (fun c => c.toNat ≤ 0x20) name).filter fun c =>
    c ≠ '\t' && c ≠ '\n' && c ≠ '\r'

theorem clean_append {cs : List Char} (hne : cs ≠ []) (h : ∀ c ∈ cs, 0x20 < c.toNat)
    (name : List Char) : clean (cs ++ name) = cs ++ written name := by
  have hend : Text.dropEndWhile (fun c => decide (c.toNat ≤ 0x20)) cs = cs := by
    refine Text.dropEndWhile_eq_self fun c hc => ?_
    simpa using h c (List.mem_of_getLast? hc)
  have hbegin : (cs ++ name).dropWhile (fun c => decide (c.toNat ≤ 0x20)) = cs ++ name := by
    obtain ⟨c, rest, rfl⟩ := List.exists_cons_of_ne_nil hne
    exact List.dropWhile_cons_of_neg (by simpa using h c List.mem_cons_self)
  rw [clean, Text.trimWhile, hbegin, Text.dropEndWhile_append _ hend, List.filter_append,
    filter_of_printable h]
  rfl

/-- The last segment is where segments lead to, unless it is made of dots. -/
theorem resolveFrom_concat (place init : List (List Char)) (s : List Char) :
    ∃ last above, resolveFrom place (init ++ [s]) = last :: above ∧
      (last = [] ∨ last = s ∧ ¬ isSingleDot s ∧ ¬ isDoubleDot s) := by
  rw [resolveFrom_append _ _ (List.cons_ne_nil s [])]
  simp only [resolveFrom]
  split_ifs with hdouble hsingle
  · exact ⟨_, _, rfl, .inl rfl⟩
  · exact ⟨_, _, rfl, .inl rfl⟩
  · exact ⟨_, _, rfl, .inr ⟨rfl, hsingle, hdouble⟩⟩

theorem slash_mem_of_mem_escapeUnless {s : List Char} (h : '/' ∈ escapeUnless isPathByte s) :
    '/' ∈ s := by
  obtain ⟨b, hb, hmem⟩ := List.mem_flatMap.mp h
  obtain ⟨c, hc, hbyte⟩ := List.mem_flatMap.mp hb
  split_ifs at hmem with hplain
  · have hslash : b = 0x2F := Text.eq_of_ofNat_toNat_eq (List.mem_singleton.mp hmem).symm
    rcases Text.toNat_of_mem_utf8EncodeChar hbyte with hlarge | heq
    · rw [hslash] at hlarge
      exact absurd hlarge (by decide)
    · have hcode : Char.ofNat c.toNat = '/' := by
        rw [← heq, hslash]
        rfl
      rw [Char.ofNat_toNat] at hcode
      exact hcode ▸ hc
  · rcases Text.mem_percent hmem with hsign | ⟨n, hn, hdigit⟩
    · exact absurd hsign (by decide)
    · exfalso
      clear hmem
      revert n
      decide

theorem ne_mark_of_mem_escapeUnless {s : List Char} :
    ∀ c ∈ escapeUnless isPathByte s, c ≠ '?' := by
  intro c hc
  obtain ⟨b, -, hb⟩ := List.mem_flatMap.mp hc
  exact ne_mark_of_mem_escape hb

theorem eq_of_append_slash {xs ys s t : List Char} (h : xs ++ '/' :: s = ys ++ '/' :: t)
    (hs : '/' ∉ s) (ht : '/' ∉ t) : s = t := by
  have hlast (xs s : List Char) (hs : '/' ∉ s) :
      (xs ++ '/' :: s).reverse.takeWhile (· ≠ '/') = s.reverse := by
    have hall : ∀ c ∈ s.reverse, decide (c ≠ '/') = true := by
      intro c hc
      refine decide_eq_true ?_
      rintro rfl
      exact hs (List.mem_reverse.mp hc)
    rw [List.reverse_append, List.reverse_cons, List.append_assoc,
      List.takeWhile_append_of_pos hall]
    simp
  have heq := hlast xs s hs
  rw [h, hlast ys t ht] at heq
  exact (List.reverse_injective heq).symm

/-- The part of a name that ends up in the path of an address. -/
def pathPart (name : List Char) : List Char :=
  ((written name).takeWhile (· ≠ '#')).takeWhile (· ≠ '?')

theorem pathPart_sublist (name : List Char) : (pathPart name).Sublist (written name) :=
  (List.takeWhile_sublist _).trans (List.takeWhile_sublist _)

theorem written_sublist (name : List Char) : (written name).Sublist name :=
  List.filter_sublist.trans (Text.dropEndWhile_sublist _ name)

theorem written_eq_self_iff {name : List Char} : written name = name ↔
    (∀ c ∈ name.getLast?, 0x20 < c.toNat) ∧ ∀ c ∈ name, c ≠ '\t' ∧ c ≠ '\n' ∧ c ≠ '\r' := by
  constructor
  · intro h
    have hend : Text.dropEndWhile (fun c => decide (c.toNat ≤ 0x20)) name = name := by
      refine (Text.dropEndWhile_sublist _ name).antisymm ?_
      have hsub : (written name).Sublist
          (Text.dropEndWhile (fun c => decide (c.toNat ≤ 0x20)) name) := List.filter_sublist
      rwa [h] at hsub
    constructor
    · intro c hc
      rw [← hend] at hc
      simpa using Text.not_of_mem_getLast?_dropEndWhile hc
    · intro c hc
      rw [← h] at hc
      simpa [and_assoc] using (List.mem_filter.mp hc).2
  · rintro ⟨hends, hbreaks⟩
    rw [written, Text.dropEndWhile_eq_self, List.filter_eq_self]
    · intro c hc
      simp [hbreaks c hc]
    · intro c hc
      simpa using hends c hc

/-- A name is left as it is if it ends in a printable character and has no marks and breaks. -/
theorem pathPart_eq_self_iff {name : List Char} : pathPart name = name ↔
    (∀ c ∈ name.getLast?, 0x20 < c.toNat) ∧ ∀ c ∈ name, c ∉ ['?', '#', '\t', '\n', '\r'] := by
  constructor
  · intro h
    have hpart := pathPart_sublist name
    rw [h] at hpart
    obtain ⟨hends, hbreaks⟩ := written_eq_self_iff.mp ((written_sublist name).antisymm hpart)
    refine ⟨hends, fun c hc => ?_⟩
    have hkept : c ∈ ((written name).takeWhile (· ≠ '#')).takeWhile (· ≠ '?') := by
      rw [← h] at hc
      exact hc
    have hmark := List.mem_takeWhile_imp hkept
    have hfragment := List.mem_takeWhile_imp ((List.takeWhile_sublist _).subset hkept)
    simp only [decide_eq_true_eq] at hmark hfragment
    simp [hmark, hfragment, hbreaks c hc]
  · rintro ⟨hends, hwhole⟩
    have hsigns : ∀ c ∈ name, c ≠ '?' ∧ c ≠ '#' ∧ c ≠ '\t' ∧ c ≠ '\n' ∧ c ≠ '\r' := by
      simpa using hwhole
    have hwritten := written_eq_self_iff.mpr ⟨hends, fun c hc => (hsigns c hc).2.2⟩
    rw [pathPart, hwritten,
      List.takeWhile_eq_self_iff.mpr fun c hc => decide_eq_true (hsigns c hc).2.1,
      List.takeWhile_eq_self_iff.mpr fun c hc => decide_eq_true (hsigns c hc).1]

theorem follow_of_isPlain (place : List (List Char)) {ts : List (List Char)}
    (ht : ∀ s ∈ ts, IsPlain s) : follow place ts = ts.reverse ++ place := by
  induction ts generalizing place with
  | nil => rfl
  | cons s ts ih =>
    rw [List.forall_mem_cons] at ht
    obtain ⟨hsingle, hdouble⟩ := not_dots_of_isPlain ht.1
    rw [follow, if_neg hdouble, if_neg hsingle, ih _ ht.2, List.reverse_cons, List.append_assoc]
    rfl

section Pasted
variable {base url : String} {scheme authority place : List Char} {ts : List (List Char)}
  (hne : ts ≠ []) (ht : ∀ s ∈ ts, IsPlain s)
include hne ht

theorem pieces_append_name (place name : List Char) :
    Text.pieces isSlash ((place ++ joined ts ++ '/' :: name).drop 1) =
      segmentsOf place ++ ts ++ Text.pieces isSlash name := by
  have hlength : 1 ≤ (place ++ joined ts).length := by
    obtain ⟨s, rest, rfl⟩ := List.exists_cons_of_ne_nil hne
    simp [joined]
    omega
  rw [List.drop_append_of_le_length hlength, Text.pieces_append_cons (by decide),
    pieces_drop_append_joined place hne ht]

/-- The path ends in the last piece of the name, or in a slash. -/
theorem path_append_name (place name : List Char) :
    ∃ last above, path (place ++ joined ts ++ '/' :: name) =
        above ++ '/' :: escapeUnless isPathByte last ∧
      (last = [] ∨ last ∈ Text.pieces isSlash name ∧ ¬ isSingleDot last ∧ ¬ isDoubleDot last) := by
  obtain ⟨init, s, hpieces⟩ := List.eq_nil_or_concat (Text.pieces isSlash name) |>.resolve_left
    (Text.pieces_ne_nil isSlash name)
  obtain ⟨last, above, hresolve, hlast⟩ := resolveFrom_concat [] (segmentsOf place ++ ts ++ init) s
  refine ⟨last, above.reverse.flatMap fun s => '/' :: escapeUnless isPathByte s, ?_, ?_⟩
  · rw [path, pieces_append_name hne ht, hpieces, List.concat_eq_append, ← List.append_assoc,
      resolve, hresolve]
    simp
  · rcases hlast with rfl | ⟨rfl, hdots⟩
    · exact .inl rfl
    · exact .inr ⟨by simp [hpieces], hdots⟩

theorem path_append_segment (place : List Char) {name : List Char} (hname : IsSegment name) :
    path (place ++ joined ts ++ '/' :: name) =
      rootOf place ++ joined ts ++ '/' :: escapeUnless isPathByte name := by
  have hpieces : Text.pieces isSlash name = [name] :=
    Text.pieces_of_forall_not fun c hc => (hname.whole c hc).1
  have hresolve : resolveFrom [] (segmentsOf place ++ (ts ++ [name])) =
      name :: (ts.reverse ++ follow [] (segmentsOf place)) := by
    rw [resolveFrom_append _ _ (by simp), resolveFrom_append _ _ (by simp), follow_of_isPlain _ ht]
    simp only [resolveFrom, if_neg hname.stays.1, if_neg hname.stays.2]
  rw [path, pieces_append_name hne ht, hpieces, List.append_assoc, resolve, hresolve]
  simp only [List.reverse_cons, List.reverse_append, List.reverse_reverse, List.flatMap_append,
    flatMap_escapeUnless ht, rootOf, List.flatMap_singleton]

omit hne in
theorem clean_append_name (hbase : IsBase base scheme authority place) {name : List Char}
    (hurl : url.toList = base.toList ++ joined ts ++ '/' :: name) :
    clean url.toList =
      scheme ++ ':' :: '/' :: '/' ::
        (authority ++ (place ++ joined ts ++ '/' :: written name)) := by
  rw [hurl, List.append_cons, clean_append (by simp)]
  · rw [hbase.parts]
    simp only [List.append_assoc, List.cons_append, List.nil_append]
  · intro c hc
    simp only [List.mem_append, List.mem_singleton] at hc
    rcases hc with (hc | hc) | rfl
    · exact hbase.printable c hc
    · exact (not_mark_of_mem_joined ht c hc).2.2
    · decide

/-- Of a name, only its part of the path tells where it leads, unless there is a query. -/
theorem target?_append_name (hbase : IsBase base scheme authority place) {name : List Char}
    (hurl : url.toList = base.toList ++ joined ts ++ '/' :: name) :
    ∃ query, target? url [] =
        some (String.ofList (path (place ++ joined ts ++ '/' :: pathPart name) ++ tail query)) ∧
      (pathPart name = name → query = none) := by
  have hfront : ∀ c ∈ place ++ joined ts ++ ['/'], c ≠ '#' ∧ c ≠ '?' := by
    intro c hc
    simp only [List.mem_append, List.mem_singleton] at hc
    rcases hc with (hc | hc) | rfl
    · exact (hbase.noQuery c hc).symm
    · exact ⟨(not_mark_of_mem_joined ht c hc).2.1, (not_mark_of_mem_joined ht c hc).1⟩
    · decide
  have hpart :
      ((place ++ joined ts ++ '/' :: written name).takeWhile (· ≠ '#')).takeWhile (· ≠ '?') =
        place ++ joined ts ++ '/' :: pathPart name := by
    rw [List.append_cons _ _ (written name), List.append_cons _ _ (pathPart name),
      List.takeWhile_append_of_pos fun c hc => decide_eq_true (hfront c hc).1,
      List.takeWhile_append_of_pos fun c hc => decide_eq_true (hfront c hc).2]
    rfl
  obtain ⟨query, htarget, hquery⟩ := hbase.exists_target? (clean_append_name ht hbase hurl)
    (hbase.isSlash_of_mem_head? hne _)
  rw [hpart] at htarget
  refine ⟨query, htarget, fun hname => hquery fun c hc => ?_⟩
  rw [List.append_cons, List.mem_append] at hc
  rcases hc with hc | hc
  · exact (hfront c hc).2
  · have hsigns := (pathPart_eq_self_iff.mp hname).2 c ((written_sublist name).subset hc)
    simp only [List.mem_cons, not_or] at hsigns
    exact hsigns.1

omit hne in
theorem ne_mark_of_mem_root (place : List Char) :
    ∀ c ∈ rootOf place ++ joined ts ++ ['/'], c ≠ '?' := by
  intro c hc
  simp only [List.mem_append, rootOf, List.mem_flatMap, List.mem_cons, List.not_mem_nil,
    or_false] at hc
  rcases hc with (⟨s, -, rfl | hc⟩ | hc) | rfl
  · decide
  · exact ne_mark_of_mem_escapeUnless c hc
  · exact (not_mark_of_mem_joined ht c hc).1
  · decide

/-- A place that stands for the name shows that nothing of the name was read as a sign. -/
theorem isSegment_of_path_eq {name segment : List Char} {query : Option (List Char)}
    (h : path (place ++ joined ts ++ '/' :: pathPart name) ++ tail query =
      rootOf place ++ joined ts ++ ['/'] ++ segment)
    (hnonempty : segment ≠ []) (hsigns : ∀ c ∈ segment, c ≠ '/' ∧ c ≠ '?')
    (hname : unescape (utf8 segment) = utf8 name) : IsSegment name := by
  obtain ⟨last, above, hpath, hlast⟩ := path_append_name hne ht place (pathPart name)
  have hquery : tail query = [] := by
    cases query with
    | none => rfl
    | some q =>
      have hmark : '?' ∈ rootOf place ++ joined ts ++ ['/'] ++ segment := by
        rw [← h]
        simp [tail]
      rcases List.mem_append.mp hmark with hmark | hmark
      · exact absurd rfl (ne_mark_of_mem_root ht place _ hmark)
      · exact absurd rfl (hsigns _ hmark).2
  have hslash : '/' ∉ last := by
    rcases hlast with rfl | ⟨hlast, -⟩
    · exact List.not_mem_nil
    · exact fun hc => Text.not_isSeparator_of_mem_pieces hlast '/' hc (by decide)
  obtain rfl : escapeUnless isPathByte last = segment := by
    rw [hquery, hpath, List.append_nil, List.append_assoc _ ['/']] at h
    exact eq_of_append_slash h (mt slash_mem_of_mem_escapeUnless hslash)
      fun hc => (hsigns _ hc).1 rfl
  rcases hlast with rfl | ⟨hlast, hdots⟩
  · exact absurd rfl hnonempty
  rw [unescape_escapeUnless] at hname
  have hsub : last.Sublist (pathPart name) := Text.sublist_of_mem_pieces hlast
  have hwhole := hsub.trans ((pathPart_sublist name).trans (written_sublist name))
  have hlength : (utf8 name).length ≤ (utf8 last).length :=
    hname ▸ Text.length_unescape_le (utf8 last)
  obtain rfl : last = name :=
    Text.utf8_injective ((hwhole.flatMap String.utf8EncodeChar).eq_of_length_le hlength)
  have hpart := ((pathPart_sublist last).trans (written_sublist last)).antisymm hsub
  obtain ⟨hends, hmarks⟩ := pathPart_eq_self_iff.mp hpart
  refine ⟨?_, fun c hc => ⟨Text.not_isSeparator_of_mem_pieces hlast c hc, hmarks c hc⟩, hends,
    hdots, hname⟩
  rintro rfl
  exact hnonempty rfl

/-- A name has a place of its own below a path if it is a segment by itself, and only then. -/
theorem names_iff_isSegment (hbase : IsBase base scheme authority place) {name : String}
    (hurl : url.toList = base.toList ++ joined ts ++ '/' :: name.toList) :
    ∃ target, target? url [] = some target ∧
      (Names (String.ofList (rootOf place ++ joined ts ++ ['/'])) target name ↔
        IsSegment name.toList) := by
  obtain ⟨query, htarget, hquery⟩ := target?_append_name hne ht hbase hurl
  refine ⟨_, htarget, ?_, ?_⟩
  · rintro ⟨segment, hsegment, hnonempty, hsigns, hname⟩
    rw [String.toList_ofList, String.toList_ofList] at hsegment
    exact isSegment_of_path_eq hne ht hsegment hnonempty hsigns hname
  · intro hname
    have hpart : pathPart name.toList = name.toList := by
      refine pathPart_eq_self_iff.mpr ⟨hname.ends, fun c hc => (hname.whole c hc).2⟩
    refine ⟨escapeUnless isPathByte name.toList, ?_, ?_, ?_, ?_⟩
    · rw [hquery hpart, hpart, path_append_segment hne ht place hname]
      simp [tail]
    · intro hnil
      have hback := unescape_escapeUnless name.toList
      rw [hnil, hname.unescaped] at hback
      change utf8 [] = _ at hback
      exact hname.nonempty (Text.utf8_injective hback).symm
    · intro c hc
      refine ⟨?_, ne_mark_of_mem_escapeUnless c hc⟩
      rintro rfl
      exact (hname.whole '/' (slash_mem_of_mem_escapeUnless hc)).1 (by decide)
    · rw [unescape_escapeUnless, hname.unescaped]

end Pasted

example : IsSegment "a b".toList ∧ ¬ IsSegment "a%20b".toList ∧ ¬ IsSegment "..".toList := by
  decide

end Url
end ControlPlane
