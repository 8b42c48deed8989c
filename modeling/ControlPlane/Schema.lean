/-! Descriptions of the attributes and blocks that a configuration has. -/
namespace ControlPlane

inductive Description where
  | plain (text : String)
  | markdown (text : String)
  deriving DecidableEq, Repr

/-- Who gives an attribute its value. -/
inductive Constraint where
  | required
  | optional
  | optionalComputed
  | computed
  deriving DecidableEq, Repr

inductive Nesting where
  | single
  | list
  | optional
  deriving DecidableEq, Repr

mutual

inductive AttributeType where
  | string
  | number
  | bool
  | list (element : AttributeType)
  | nested (nesting : Nesting) (attributes : List (String × Attribute))

inductive Attribute where
  | mk (type : AttributeType) (description : Description) (constraint : Constraint)
      (sensitive : Bool)

end

namespace Attribute

def type : Attribute → AttributeType
  | mk type _ _ _ => type

def description : Attribute → Description
  | mk _ description _ _ => description

def constraint : Attribute → Constraint
  | mk _ _ constraint _ => constraint

def isSensitive : Attribute → Bool
  | mk _ _ _ sensitive => sensitive

/-- Hides the value wherever it would be shown. -/
def sensitive : Attribute → Attribute
  | mk type description constraint _ => mk type description constraint true

def required (type : AttributeType) (description : String) : Attribute :=
  .mk type (.plain description) .required false

def optional (type : AttributeType) (description : String) : Attribute :=
  .mk type (.plain description) .optional false

def optionalComputed (type : AttributeType) (description : String) : Attribute :=
  .mk type (.plain description) .optionalComputed false

def computed (type : AttributeType) (description : String) : Attribute :=
  .mk type (.plain description) .computed false

def id : Attribute := computed .string "Terraform ID of this object."

end Attribute

def AttributeType.stringList : AttributeType := .list .string

inductive Block where
  | mk (description : Description) (attributes : List (String × Attribute))
      (blocks : List (String × Nesting × Block))

namespace Block

def description : Block → Description
  | mk description _ _ => description

def attributes : Block → List (String × Attribute)
  | mk _ attributes _ => attributes

def blocks : Block → List (String × Nesting × Block)
  | mk _ _ blocks => blocks

/-- Every block is described in its first version. -/
def version : Nat := 1

end Block

structure Schema where
  block : Block

namespace Schema

/-- Every schema is in its first version. -/
def version : Nat := 1

def of (description : Description) (attributes : List (String × Attribute))
    (blocks : List (String × Nesting × Block)) : Schema := ⟨.mk description attributes blocks⟩

end Schema

end ControlPlane
