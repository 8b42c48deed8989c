/-! Paths to attributes, as diagnostics and replacement triggers name them. -/
namespace ControlPlane

inductive Path.Step where
  | attribute (name : String)
  | index (position : Int)
  | key (name : String)
  deriving DecidableEq, Repr

/-- The steps from the root, which is the empty path. -/
abbrev Path := List Path.Step

namespace Path

def root : Path := []

def attr (p : Path) (name : String) : Path := p ++ [.attribute name]

def item (p : Path) (position : Nat) : Path := p ++ [.index position]

def of (name : String) : Path := root.attr name

end Path
end ControlPlane
