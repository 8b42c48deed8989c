import ControlPlane.Binding.Resource
import ControlPlane.Listener.Resource
import ControlPlane.Proofs.ComposedId
import ControlPlane.UserAccount.Resource

/-!
Parsing an identifier undoes its composition and is undone by it. Objects whose identifiers have two
parts are imported with both of them, or not at all.
-/
namespace ControlPlane.ComposedId

/--
Parts are parsed from their composition if there are as many as expected, none of them is empty and
none holds the separator, and only then. Whatever else is parsed gives such parts, which compose the
same identifier, or it is refused with all that was asked for. A pair is parsed as two parts are,
and so are the identifiers of listeners, bindings and accounts when they are imported.
-/
theorem parse_exact (separator : Char) (expected : Nat) :
    (∀ parts, parse separator expected (join separator parts) = .ok parts ↔
      parts ≠ [] ∧ parts.length = expected ∧ ∀ p ∈ parts, p ≠ "" ∧ separator ∉ p.toList) ∧
    (∀ id, (∃ parts, parse separator expected id = .ok parts ∧ parts.length = expected ∧
        (∀ p ∈ parts, p ≠ "" ∧ separator ∉ p.toList) ∧ join separator parts = id) ∨
      parse separator expected id = .error (.invalidId id expected separator)) ∧
    ∀ id, (∃ first second, parse '/' 2 id = .ok [first, second] ∧
        parsePair id = .ok (first, second) ∧
        Listener.resource.importState id =
          .ok ⟨.known id, .known first, .known second, .null, .null⟩ ∧
        Binding.resource.importState id =
          .ok ⟨.known id, .known first, .null, .known second, .null, .null⟩ ∧
        UserAccount.resource.importState id =
          .ok ⟨.known id, .known first, .known second, .null, .null, .null⟩) ∨
      parse '/' 2 id = .error (.invalidId id 2 '/') ∧
        parsePair id = .error (.invalidId id 2 '/') ∧
        Listener.resource.importState id = .error (.invalidId id 2 '/') ∧
        Binding.resource.importState id = .error (.invalidId id 2 '/') ∧
        UserAccount.resource.importState id = .error (.invalidId id 2 '/') := by
  refine ⟨fun parts => ?_, fun id => ?_, fun id => ?_⟩
  · rw [parse_eq_ok_iff_join]
    constructor
    · rintro ⟨h, -⟩
      exact ⟨h.nonempty, h.length, h.plain⟩
    · rintro ⟨hne, hlength, hplain⟩
      exact ⟨⟨hne, hlength, hplain⟩, rfl⟩
  · refine (parse_eq_ok_or_error separator expected id).imp_left ?_
    rintro ⟨parts, h⟩
    obtain ⟨hparts, hjoin⟩ := parse_eq_ok_iff_join.mp h
    exact ⟨parts, h, hparts.length, hparts.plain, hjoin⟩
  · simp only [Listener.resource, Listener.importState, Binding.resource, Binding.importState,
      UserAccount.resource, UserAccount.importState, importPair_eq_map]
    rcases parse_two_cases id with ⟨first, second, h, hpair⟩ | ⟨h, hpair⟩
    · left
      rw [hpair]
      exact ⟨first, second, h, rfl, rfl, rfl, rfl⟩
    · right
      rw [hpair]
      exact ⟨h, rfl, rfl, rfl, rfl⟩

/-- An empty identifier has one part, which is empty. -/
example : split '/' "" = [""] ∧ parse '/' 1 "" = .error (.invalidId "" 1 '/') := by
  decide

end ControlPlane.ComposedId
