import ControlPlane.Proofs.Json.Record

/-! Records are read alike in whatever order the members of their objects come. -/
namespace ControlPlane.Json
variable {α : Type}

/-- The same value, but for the order of the members of its objects. -/
inductive Same : Json → Json → Prop
  | refl (j : Json) : Same j j
  | arr {xs ys : List Json} (h : List.Forall₂ Same xs ys) : Same (.arr xs) (.arr ys)
  | obj {ms ms' ns : List (String × Json)} (hp : ms.Perm ms')
      (hk : ms'.map Prod.fst = ns.map Prod.fst)
      (hv : List.Forall₂ Same (ms'.map Prod.snd) (ns.map Prod.snd)) : Same (.obj ms) (.obj ns)

theorem Same.of_perm {ms ns : List (String × Json)} (h : ms.Perm ns) : Same (.obj ms) (.obj ns) :=
  .obj h rfl (List.forall₂_same.mpr fun j _ => .refl j)

theorem Same.single (name : String) {j j' : Json} (h : Same j j') :
    Same (.obj [(name, j)]) (.obj [(name, j')]) :=
  .obj (.refl _) rfl (.cons h .nil)

/-- Records that give the same fields the same values. -/
def GiveSame (given given' : List (String × Json)) : Prop :=
  ∀ name, Option.Rel Same (given.lookup name) (given'.lookup name)

theorem GiveSame.refl (given : List (String × Json)) : GiveSame given given := by
  intro name
  cases given.lookup name with
  | none => exact .none
  | some j => exact .some (.refl j)

/-- Reading that does not look at the order of members. -/
def Unordered (read : Json → Option α) : Prop := ∀ j j', Same j j' → read j = read j'

theorem lookup_eq_of_perm {ms ns : List (String × Json)} (hp : ms.Perm ns)
    (hn : (ms.map Prod.fst).Nodup) (name : String) : ms.lookup name = ns.lookup name := by
  induction hp with
  | nil => rfl
  | cons m _ ih =>
    rw [List.map_cons, List.nodup_cons] at hn
    rw [lookup_cons_eq, lookup_cons_eq, ih hn.2]
  | swap m n ms =>
    have hne : n.1 ≠ m.1 := by
      intro h
      simp [h] at hn
    by_cases hm : name = m.1
    · simp [lookup_cons_eq, hm, hne.symm]
    · simp [lookup_cons_eq, hm]
  | trans h _ ih₁ ih₂ => exact (ih₁ hn).trans (ih₂ ((h.map Prod.fst).nodup_iff.mp hn))

theorem lookup_filter_names (names : List String) (ms : List (String × Json)) (name : String) :
    (ms.filter fun m => names.contains m.1).lookup name =
      if name ∈ names then ms.lookup name else none := by
  induction ms with
  | nil => simp
  | cons m ms ih =>
    by_cases hm : m.1 ∈ names
    · rw [List.filter_cons_of_pos (by simpa using hm), lookup_cons_eq, lookup_cons_eq, ih]
      by_cases hname : name = m.1 <;> simp [hname, hm]
    · rw [List.filter_cons_of_neg (by simpa using hm), lookup_cons_eq, ih]
      by_cases hname : name = m.1 <;> simp [hname, hm]

theorem giveSame_of_forall₂ {ms ns : List (String × Json)}
    (hk : ms.map Prod.fst = ns.map Prod.fst)
    (hv : List.Forall₂ Same (ms.map Prod.snd) (ns.map Prod.snd)) : GiveSame ms ns := by
  induction ms generalizing ns with
  | nil =>
    obtain rfl : ns = [] := by simpa using hk.symm
    exact .refl []
  | cons m ms ih =>
    cases ns with
    | nil => simp at hk
    | cons n ns =>
      simp only [List.map_cons, List.cons.injEq, List.forall₂_cons] at hk hv
      intro name
      rw [lookup_cons_eq, lookup_cons_eq, hk.1]
      split_ifs
      · exact .some hv.1
      · exact ih hk.2 hv.2 name

theorem giveSame_zip (names : List String) {xs ys : List Json} (h : List.Forall₂ Same xs ys) :
    GiveSame (names.zip xs) (names.zip ys) := by
  induction h generalizing names with
  | nil => exact .refl _
  | cons hx _ ih =>
    cases names with
    | nil => exact .refl []
    | cons n names =>
      intro name
      simp only [List.zip_cons_cons, lookup_cons_eq]
      split_ifs
      · exact .some hx
      · exact ih names name

/-- The fields of a record do not hang on the order of its members. -/
theorem fields?_same (names : List String) {j j' : Json} (h : Same j j') :
    Option.Rel GiveSame (j.fields? names) (j'.fields? names) := by
  cases h with
  | refl j =>
    cases j.fields? names with
    | none => exact .none
    | some given => exact .some (.refl given)
  | @arr xs ys h =>
    simp only [fields?, h.length_eq]
    split_ifs
    · exact .some (giveSame_zip names h)
    · exact .none
  | @obj ms ms' ns hp hk hv =>
    have hkeys (ls : List (String × Json)) :
        (ls.filter fun m => names.contains m.1).map Prod.fst =
          (ls.map Prod.fst).filter (names.contains ·) := by
      rw [List.filter_map]
      rfl
    have hperm := hp.filter fun m => names.contains m.1
    have hnodup := (hperm.map Prod.fst).nodup_iff
    rw [hkeys ms', hk, ← hkeys ns] at hnodup
    simp only [fields?]
    split_ifs with hm hn hn
    · refine .some fun name => ?_
      rw [lookup_eq_of_perm hperm hm, lookup_filter_names, lookup_filter_names]
      split_ifs
      · exact giveSame_of_forall₂ hk hv name
      · exact .none
    · exact absurd (hnodup.mp hm) hn
    · exact absurd (hnodup.mpr hn) hm
    · exact .none

theorem Unordered.of_fields {names : List String} {read : List (String × Json) → Option α}
    (h : ∀ given given', GiveSame given given' → read given = read given') :
    Unordered fun j => (j.fields? names).bind read := by
  intro j j' hj
  have hrel := fields?_same names hj
  simp only
  generalize j.fields? names = x, j'.fields? names = y at hrel ⊢
  cases hrel with
  | none => rfl
  | some hg => exact h _ _ hg

theorem GiveSame.field?_eq {given given' : List (String × Json)} (h : GiveSame given given')
    {read : Json → Option α} (hr : Unordered read) (name : String) :
    field? given name read = field? given' name read := by
  have hrel := h name
  simp only [field?]
  generalize given.lookup name = x, given'.lookup name = y at hrel ⊢
  cases hrel with
  | none => rfl
  | some hj => exact hr _ _ hj

theorem GiveSame.fieldD?_eq {given given' : List (String × Json)} (h : GiveSame given given')
    {read : Json → Option α} (hr : Unordered read) (name : String) (absent : α) :
    fieldD? given name read absent = fieldD? given' name read absent := by
  have hrel := h name
  simp only [fieldD?]
  generalize given.lookup name = x, given'.lookup name = y at hrel ⊢
  cases hrel with
  | none => rfl
  | some hj => exact hr _ _ hj

theorem Unordered.only? {read : Json → Option α} (hr : Unordered read) (name : String) :
    Unordered (only? name read) :=
  .of_fields fun _ _ h => h.field?_eq hr name

theorem Unordered.text? : Unordered text? := by
  intro j j' h
  cases h <;> rfl

theorem Unordered.bool? : Unordered bool? := by
  intro j j' h
  cases h <;> rfl

theorem Unordered.int64? : Unordered int64? := by
  intro j j' h
  cases h <;> rfl

theorem Unordered.list? {read : Json → Option α} (hr : Unordered read) :
    Unordered (list? read) := by
  intro j j' h
  cases h with
  | refl | obj => rfl
  | arr h =>
    simp only [Json.list?]
    induction h with
    | nil => rfl
    | cons hx _ ih => simp only [List.mapM_cons, hr _ _ hx, ih]

theorem Unordered.texts? : Unordered texts? := Unordered.text?.list?

theorem Unordered.option? {read : Json → Option α} (hr : Unordered read) :
    Unordered (option? read) := by
  intro j j' h
  have hread := hr j j' h
  cases h with
  | refl => rfl
  | arr | obj => simp only [Json.option?, hread]

end ControlPlane.Json
