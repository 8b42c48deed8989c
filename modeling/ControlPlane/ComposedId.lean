import ControlPlane.Failure
import ControlPlane.Text.Pieces

/-! Identifiers made of several parts. -/
namespace ControlPlane.ComposedId

/-- Parts hold no separator of their own, or they cannot be told apart. -/
def separator : Char := '/'

def join (separator : Char) (parts : List String) : String :=
  String.ofList ([separator].intercalate (parts.map String.toList))

def split (separator : Char) (id : String) : List String :=
  (Text.pieces (· = separator) id.toList).map String.ofList

/-- Splits into exactly `expected` parts, none of which is empty. -/
def parse (separator : Char) (expected : Nat) (id : String) : Except Failure (List String) :=
  let parts := split separator id
  if parts.length = expected ∧ "" ∉ parts then .ok parts
  else .error (.invalidId id expected separator)

theorem length_of_parse {separator : Char} {expected : Nat} {id : String} {parts : List String}
    (h : parse separator expected id = .ok parts) : parts.length = expected := by
  unfold parse at h
  dsimp only at h
  split at h
  · next hparts =>
    rw [← Except.ok.inj h]
    exact hparts.1
  · cases h

/-- The state of an object whose identifier has two parts. Both are there once it is parsed. -/
def importPair {S : Type} (state : String → String → String → S) (id : String) :
    Except Failure S :=
  match h : parse separator 2 id with
  | .error failure => .error failure
  | .ok parts =>
    have hlength : parts.length = 2 := length_of_parse h
    .ok (state id parts[0] parts[1])

def parsePair (id : String) : Except Failure (String × String) :=
  match parse separator 2 id with
  | .ok [first, second] => .ok (first, second)
  | .ok _ => .error (.invalidId id 2 separator)
  | .error failure => .error failure

end ControlPlane.ComposedId
