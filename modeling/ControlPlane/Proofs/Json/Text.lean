import ControlPlane.Json.Parser
import ControlPlane.Proofs.Json.Order
import ControlPlane.Proofs.Json.Token

/-!
Compact text is read back as the value that it was written for. Only the order of members is lost,
since they are written in the order of their keys.
-/
namespace ControlPlane.Json
open Text (utf8 utf8_append)

/-- Lexemes that read as a value, wherever one may come. -/
def Parses (tokens : List Token) (j : Json) : Prop :=
  ∃ first rest, tokens = first :: rest ∧ first ≠ .bracketClose ∧
    ∀ stack, (Parser.value? stack first).bind (rest.foldlM Parser.step?) = some ⟨stack, .more j⟩

namespace Parses
variable {tokens : List Token} {j : Json}

theorem single {token : Token} (hne : token ≠ .bracketClose)
    (h : ∀ stack, Parser.value? stack token = some ⟨stack, .more j⟩) : Parses [token] j :=
  ⟨token, [], rfl, hne, fun stack => by rw [h]; rfl⟩

theorem foldlM_value (h : Parses tokens j) (stack : List Frame) (more : List Token) :
    (tokens ++ more).foldlM Parser.step? ⟨stack, .value⟩ =
      more.foldlM Parser.step? ⟨stack, .more j⟩ := by
  obtain ⟨first, rest, rfl, -, hrest⟩ := h
  have hstep : Parser.step? ⟨stack, .value⟩ first = Parser.value? stack first := rfl
  rw [List.foldlM_append, List.foldlM_cons, hstep]
  exact congrArg (·.bind (more.foldlM Parser.step?)) (hrest stack)

/-- The first element of an array comes where the array could have ended. -/
theorem foldlM_firstElement (h : Parses tokens j) (stack : List Frame) (more : List Token) :
    (tokens ++ more).foldlM Parser.step? ⟨stack, .firstElement⟩ =
      more.foldlM Parser.step? ⟨.array [] :: stack, .more j⟩ := by
  obtain ⟨first, rest, rfl, hne, hrest⟩ := h
  have hstep : Parser.step? ⟨stack, .firstElement⟩ first =
      Parser.value? (.array [] :: stack) first := by
    cases first <;> first | rfl | contradiction
  rw [List.foldlM_append, List.foldlM_cons, hstep]
  exact congrArg (·.bind (more.foldlM Parser.step?)) (hrest _)

end Parses

/-- A text that reads as a value, but for the order of members. -/
def Tells (text : List Char) (j : Json) : Prop :=
  ∃ tokens told, Token.Spelled tokens (utf8 text) ∧ Parses tokens told ∧ j.Same told

theorem Tells.parse?_eq {text : List Char} {j : Json} (h : Tells text j) :
    ∃ told, parse? (utf8 text) = some told ∧ j.Same told := by
  obtain ⟨tokens, told, hspelled, hparses, hsame⟩ := h
  refine ⟨told, ?_, hsame⟩
  have hfold := hparses.foldlM_value [] []
  rw [List.append_nil, List.foldlM_nil] at hfold
  simp only [parse?, hspelled.scan?_eq, Parser.start, Option.bind_eq_bind, Option.bind_some, hfold]
  rfl

theorem tells_str (s : String) : Tells (quoted s) (.str s) := by
  obtain ⟨more, hmore, hspells⟩ := Token.spells_str s
  exact ⟨[.str (some s)], .str s, .word hmore hspells, .single (by simp) fun _ => rfl, .refl _⟩

theorem tells_null : Tells "null".toList .null :=
  ⟨[.null], .null, .word rfl ⟨by decide, fun _ => rfl⟩, .single (by simp) fun _ => rfl, .refl _⟩

theorem tells_bool (b : Bool) : Tells (toString b).toList (.bool b) := by
  refine ⟨[.bool b], .bool b, ?_, .single (by simp) fun _ => rfl, .refl _⟩
  cases b with
  | false | true => exact .word rfl ⟨by decide, fun _ => rfl⟩

theorem intercalate_comma (x : List Char) (xs : List (List Char)) :
    [','].intercalate (x :: xs) = x ++ xs.flatMap (',' :: ·) := by
  induction xs generalizing x with
  | nil => simp [List.intercalate]
  | cons y ys ih => rw [List.intercalate_cons_cons, ih]; simp

theorem exists_elements {xs : List (List Char)} {js : List Json} (h : List.Forall₂ Tells xs js) :
    ∃ tokens tolds, Token.Spelled tokens (utf8 (xs.flatMap (',' :: ·))) ∧
      List.Forall₂ Same js tolds ∧
      ∀ stack es last more, (tokens ++ Token.bracketClose :: more).foldlM Parser.step?
          ⟨.array es :: stack, .more last⟩ =
        more.foldlM Parser.step? ⟨stack, .more (.arr (es.reverse ++ last :: tolds))⟩ := by
  induction h with
  | nil =>
    refine ⟨[], [], .nil, .nil, fun stack es last more => ?_⟩
    have hstep : Parser.step? ⟨.array es :: stack, .more last⟩ .bracketClose =
        some ⟨stack, .more (.arr (last :: es).reverse)⟩ := rfl
    rw [List.nil_append, List.foldlM_cons, hstep, List.reverse_cons]
    rfl
  | @cons x j xs js hx _ ih =>
    obtain ⟨first, told, hfirst, hparses, hsame⟩ := hx
    obtain ⟨tokens, tolds, htokens, hsames, hfold⟩ := ih
    refine ⟨.comma :: (first ++ tokens), told :: tolds, ?_, .cons hsame hsames, ?_⟩
    · rw [List.flatMap_cons, List.cons_append]
      refine .sign rfl ⟨by decide, fun _ => rfl⟩ ?_
      rw [utf8_append]
      exact hfirst.append htokens
    · intro stack es last more
      have hstep : Parser.step? ⟨.array es :: stack, .more last⟩ .comma =
          some ⟨.array (last :: es) :: stack, .value⟩ := rfl
      rw [List.cons_append, List.foldlM_cons, hstep, Option.bind_eq_bind, Option.bind_some,
        List.append_assoc, hparses.foldlM_value, hfold]
      simp

theorem tells_arr {xs : List (List Char)} {js : List Json} (h : List.Forall₂ Tells xs js) :
    Tells ('[' :: [','].intercalate xs ++ [']']) (.arr js) := by
  have hopen : Token.Spells .bracketOpen 0x5B [] := ⟨by decide, fun _ => rfl⟩
  have hclose : Token.Spelled [.bracketClose] (utf8 [']']) :=
    .word rfl ⟨by decide, fun _ => rfl⟩
  cases h with
  | nil =>
    exact ⟨[.bracketOpen, .bracketClose], .arr [], .sign rfl hopen hclose,
      ⟨.bracketOpen, [.bracketClose], rfl, by simp, fun _ => rfl⟩, .refl _⟩
  | @cons x j xs js hx hxs =>
    obtain ⟨first, told, hfirst, hparses, hsame⟩ := hx
    obtain ⟨tokens, tolds, htokens, hsames, hfold⟩ := exists_elements hxs
    refine ⟨.bracketOpen :: (first ++ (tokens ++ [.bracketClose])), .arr (told :: tolds), ?_,
      ⟨.bracketOpen, _, rfl, by simp, fun stack => ?_⟩, .arr (.cons hsame hsames)⟩
    · rw [intercalate_comma, List.cons_append, List.append_assoc]
      refine .sign rfl hopen ?_
      rw [utf8_append, utf8_append]
      exact hfirst.append (htokens.append hclose)
    · have hstart : Parser.value? stack .bracketOpen = some ⟨stack, .firstElement⟩ := rfl
      rw [hstart, Option.bind_some, hparses.foldlM_firstElement, hfold]
      rfl

/-- The key of a member as it is kept on the stack. -/
def keyed (m : String × Json) : Option String × Json := (some m.1, m.2)

theorem mapM_keyed {f : Option String × Json → Option (String × Json)}
    (hf : ∀ m, f (keyed m) = some m) (ms : List (String × Json)) :
    (ms.map keyed).mapM f = some ms := by
  induction ms with
  | nil => rfl
  | cons m ms ih =>
    rw [List.map_cons, List.mapM_cons, hf, ih]
    rfl

theorem ofMembers_keyed (ms : List (String × Json)) :
    ofMembers (ms.map keyed).reverse = .obj ms := by
  unfold ofMembers
  rw [List.reverse_reverse, mapM_keyed fun _ => rfl]

/-- The text of a member. -/
def memberChars (m : String × List Char) : List Char := quoted m.1 ++ ':' :: m.2

theorem exists_member {m : String × List Char} {j : Json} (h : Tells m.2 j) :
    ∃ tokens told, Token.Spelled (.str (some m.1) :: tokens) (utf8 (memberChars m)) ∧ j.Same told ∧
      ∀ ms stack more, (tokens ++ more).foldlM Parser.step?
          ⟨.object ms (some m.1) :: stack, .colon⟩ =
        more.foldlM Parser.step? ⟨.object ms (some m.1) :: stack, .more told⟩ := by
  obtain ⟨tokens, told, htokens, hparses, hsame⟩ := h
  obtain ⟨more, hmore, hspells⟩ := Token.spells_str m.1
  refine ⟨.colon :: tokens, told, ?_, hsame, fun ms stack more => ?_⟩
  · rw [memberChars, utf8_append, hmore]
    exact .cons hspells (.sign rfl ⟨by decide, fun _ => rfl⟩ htokens)
  · have hstep : Parser.step? ⟨.object ms (some m.1) :: stack, .colon⟩ .colon =
        some ⟨.object ms (some m.1) :: stack, .value⟩ := rfl
    rw [List.cons_append, List.foldlM_cons, hstep, Option.bind_eq_bind, Option.bind_some,
      hparses.foldlM_value]

theorem exists_members {ms : List (String × List Char)} {ns : List (String × Json)}
    (hk : ms.map Prod.fst = ns.map Prod.fst)
    (hv : List.Forall₂ Tells (ms.map Prod.snd) (ns.map Prod.snd)) :
    ∃ tokens tolds, Token.Spelled tokens (utf8 (ms.flatMap fun m => ',' :: memberChars m)) ∧
      ns.map Prod.fst = tolds.map Prod.fst ∧
      List.Forall₂ Same (ns.map Prod.snd) (tolds.map Prod.snd) ∧
      ∀ stack read key last more, (tokens ++ Token.braceClose :: more).foldlM Parser.step?
          ⟨.object (read.map keyed).reverse (some key) :: stack, .more last⟩ =
        more.foldlM Parser.step? ⟨stack, .more (.obj (read ++ (key, last) :: tolds))⟩ := by
  have hkeyed (read : List (String × Json)) (key : String) (last : Json) :
      (some key, last) :: (read.map keyed).reverse =
        ((read ++ [(key, last)]).map keyed).reverse := by
    simp [keyed]
  induction ms generalizing ns with
  | nil =>
    obtain rfl : ns = [] := List.map_eq_nil_iff.mp hk.symm
    refine ⟨[], [], .nil, rfl, .nil, fun stack read key last more => ?_⟩
    have hstep : Parser.step? ⟨.object (read.map keyed).reverse (some key) :: stack, .more last⟩
        .braceClose = some ⟨stack, .more (.obj (read ++ [(key, last)]))⟩ := by
      rw [← ofMembers_keyed, ← hkeyed]
      rfl
    rw [List.nil_append, List.foldlM_cons, hstep]
    rfl
  | cons m ms ih =>
    obtain _ | ⟨n, ns⟩ := ns
    · contradiction
    simp only [List.map_cons, List.cons.injEq, List.forall₂_cons] at hk hv
    obtain ⟨first, told, hfirst, hsame, hread⟩ := exists_member hv.1
    obtain ⟨tokens, tolds, htokens, hkeys, hsames, hfold⟩ := ih hk.2 hv.2
    refine ⟨.comma :: (.str (some m.1) :: first ++ tokens), (m.1, told) :: tolds, ?_, ?_,
      .cons hsame hsames, ?_⟩
    · have htext : (m :: ms).flatMap (fun m => ',' :: memberChars m) =
          ',' :: (memberChars m ++ ms.flatMap fun m => ',' :: memberChars m) := rfl
      rw [htext]
      refine .sign rfl ⟨by decide, fun _ => rfl⟩ ?_
      rw [utf8_append]
      exact hfirst.append htokens
    · rw [List.map_cons, List.map_cons, hkeys, hk.1]
    · intro stack read key last more
      have hcomma : Parser.step? ⟨.object (read.map keyed).reverse (some key) :: stack, .more last⟩
          .comma = some ⟨stack, .key ((read ++ [(key, last)]).map keyed).reverse⟩ := by
        rw [← hkeyed]
        rfl
      have hkey (ms : List (Option String × Json)) :
          Parser.step? ⟨stack, .key ms⟩ (.str (some m.1)) =
            some ⟨.object ms (some m.1) :: stack, .colon⟩ := rfl
      rw [List.cons_append, List.foldlM_cons, hcomma, Option.bind_eq_bind, Option.bind_some,
        List.cons_append, List.cons_append, List.foldlM_cons, hkey, Option.bind_eq_bind,
        Option.bind_some, List.append_assoc, hread, hfold]
      simp

theorem tells_obj {ms : List (String × List Char)} {ns : List (String × Json)}
    (hk : ms.map Prod.fst = ns.map Prod.fst)
    (hv : List.Forall₂ Tells (ms.map Prod.snd) (ns.map Prod.snd)) :
    ∃ tokens tolds, Token.Spelled tokens
        (utf8 ('\x7b' :: [','].intercalate (ms.map memberChars) ++ ['\x7d'])) ∧
      ns.map Prod.fst = tolds.map Prod.fst ∧
      List.Forall₂ Same (ns.map Prod.snd) (tolds.map Prod.snd) ∧
      Parses tokens (.obj tolds) := by
  have hopen : Token.Spells .braceOpen 0x7B [] := ⟨by decide, fun _ => rfl⟩
  have hclose : Token.Spelled [.braceClose] (utf8 ['\x7d']) := .word rfl ⟨by decide, fun _ => rfl⟩
  obtain _ | ⟨m, ms⟩ := ms
  · obtain rfl : ns = [] := List.map_eq_nil_iff.mp hk.symm
    exact ⟨[.braceOpen, .braceClose], [], .sign rfl hopen hclose, rfl, .nil,
      .braceOpen, [.braceClose], rfl, by simp, fun _ => rfl⟩
  · obtain _ | ⟨n, ns⟩ := ns
    · contradiction
    simp only [List.map_cons, List.cons.injEq, List.forall₂_cons] at hk hv
    obtain ⟨first, told, hfirst, hsame, hread⟩ := exists_member hv.1
    obtain ⟨tokens, tolds, htokens, hkeys, hsames, hfold⟩ := exists_members hk.2 hv.2
    refine ⟨.braceOpen :: (.str (some m.1) :: first ++ (tokens ++ [.braceClose])),
      (m.1, told) :: tolds, ?_, ?_, .cons hsame hsames,
      .braceOpen, _, rfl, by simp, fun stack => ?_⟩
    · have htext : '\x7b' :: [','].intercalate ((m :: ms).map memberChars) ++ ['\x7d'] =
          '\x7b' :: (memberChars m ++
            (ms.flatMap (fun m => ',' :: memberChars m) ++ ['\x7d'])) := by
        rw [List.map_cons, intercalate_comma, List.flatMap_map, List.cons_append, List.append_assoc]
      rw [htext]
      refine .sign rfl hopen ?_
      rw [utf8_append, utf8_append]
      exact hfirst.append (htokens.append hclose)
    · rw [List.map_cons, List.map_cons, hkeys, hk.1]
    · have hstart : Parser.value? stack .braceOpen = some ⟨stack, .firstKey⟩ := rfl
      have hkey : Parser.step? ⟨stack, .firstKey⟩ (.str (some m.1)) =
          some ⟨.object ([].map keyed).reverse (some m.1) :: stack, .colon⟩ := rfl
      rw [hstart, Option.bind_some, List.cons_append, List.foldlM_cons, hkey, Option.bind_eq_bind,
        Option.bind_some, hread, hfold]
      rfl

/-- A value that holds no numbers and no ill-formed text. -/
inductive Numberless : Json → Prop
  | null : Numberless .null
  | bool (b : Bool) : Numberless (.bool b)
  | str (s : String) : Numberless (.str s)
  | arr {js : List Json} (h : ∀ j ∈ js, Numberless j) : Numberless (.arr js)
  | obj {ms : List (String × Json)} (h : ∀ m ∈ ms, Numberless m.2) : Numberless (.obj ms)

theorem compactList_eq_map (js : List Json) : compactList js = js.map compactChars := by
  induction js with
  | nil => rw [compactList, List.map_nil]
  | cons j js ih => rw [compactList, ih, List.map_cons]

theorem compactMembers_eq_map (ms : List (String × Json)) :
    compactMembers ms = ms.map fun m => (m.1, compactChars m.2) := by
  induction ms with
  | nil => rw [compactMembers, List.map_nil]
  | cons m ms ih => rw [compactMembers, ih, List.map_cons]

theorem tells_compactChars {j : Json} (h : j.Numberless) : Tells j.compactChars j := by
  induction h with
  | null =>
    rw [compactChars]
    exact tells_null
  | bool b =>
    rw [compactChars]
    exact tells_bool b
  | str s =>
    rw [compactChars]
    exact tells_str s
  | @arr js _ ih =>
    rw [compactChars, compactList_eq_map]
    refine tells_arr (List.forall₂_map_left_iff.mpr ?_)
    exact List.forall₂_same.mpr ih
  | @obj ms _ ih =>
    let text (m : String × Json) : String × List Char := (m.1, compactChars m.2)
    let ordered := ms.mergeSort fun a b => a.1 ≤ b.1
    have hperm : ordered.Perm ms := List.mergeSort_perm ms _
    have hsort : (compactMembers ms).mergeSort (fun a b => a.1 ≤ b.1) = ordered.map text := by
      rw [compactMembers_eq_map]
      exact (List.map_mergeSort (f := text) fun a _ b _ => rfl).symm
    have hk : (ordered.map text).map Prod.fst = ordered.map Prod.fst := by
      rw [List.map_map]
      rfl
    have hv : List.Forall₂ Tells ((ordered.map text).map Prod.snd) (ordered.map Prod.snd) := by
      rw [List.map_map, List.forall₂_map_left_iff, List.forall₂_map_right_iff]
      exact List.forall₂_same.mpr fun m hm => ih m (hperm.mem_iff.mp hm)
    obtain ⟨tokens, tolds, htokens, hkeys, hsames, hparses⟩ := tells_obj hk hv
    rw [compactChars, hsort]
    exact ⟨tokens, .obj tolds, htokens, hparses, .obj hperm.symm hkeys hsames⟩

/-- What is written is read back, but for the order of members. -/
theorem exists_parse?_compactChars {j : Json} (h : j.Numberless) :
    ∃ told, parse? (utf8 j.compactChars) = some told ∧ j.Same told :=
  (tells_compactChars h).parse?_eq

end ControlPlane.Json
