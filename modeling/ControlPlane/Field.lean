/-! Attribute values, which can be absent or not known yet. -/
namespace ControlPlane

/-- A value of a configuration or a state. An unknown value is settled by a later step. -/
inductive Field (α : Type) where
  | null
  | unknown
  | known (value : α)
  deriving DecidableEq, Repr

namespace Field
variable {α β : Type}

instance : Inhabited (Field α) := ⟨.null⟩

def known? : Field α → Option α
  | .known a => some a
  | _ => none

def isNull : Field α → Bool
  | .null => true
  | _ => false

def isUnknown : Field α → Bool
  | .unknown => true
  | _ => false

def isKnown : Field α → Bool
  | .known _ => true
  | _ => false

/-- The known value, or `fallback` when there is none. -/
def getD (x : Field α) (fallback : α) : α := x.known?.getD fallback

def map (f : α → β) : Field α → Field β
  | .null => .null
  | .unknown => .unknown
  | .known a => .known (f a)

/-- Null takes the default. Unknown stays unknown, since it can still be settled otherwise. -/
def orDefault (x : Field α) (value : α) : Field α :=
  match x with
  | .null => .known value
  | x => x

/-- The blocks of a known list. -/
def elems (blocks : Field (List α)) : List α := blocks.getD []

/-- The one block of a list limited to one. -/
def first (blocks : Field (List α)) : Option α := blocks.elems.head?

/-- A list limited to one block. -/
def single (block : Option α) : Field (List α) := .known block.toList

end Field
end ControlPlane
