/-! Decimal text of integers. -/
namespace ControlPlane.Text.Decimal

def digit (n : Nat) : Char := Char.ofNat (0x30 + n)

/-- The digits of `n`, the last one first. -/
def reversedDigits (n : Nat) : List Char :=
  if h : n < 10 then [digit n] else digit (n % 10) :: reversedDigits (n / 10)
termination_by n
decreasing_by omega

def ofNat (n : Nat) : List Char := (reversedDigits n).reverse

def ofInt : Int → List Char
  | .ofNat n => ofNat n
  | .negSucc n => '-' :: ofNat (n + 1)

def render (n : Int64) : String := String.ofList (ofInt n.toInt)

def isDigit (c : Char) : Bool := '0' ≤ c && c ≤ '9'

def value (ds : List Char) : Nat := ds.foldl (fun n d => 10 * n + (d.toNat - 0x30)) 0

/-- At least one digit and nothing else. -/
def toNat? (cs : List Char) : Option Nat :=
  if cs ≠ [] ∧ cs.all isDigit then some (value cs) else none

/-- One sign may come before the digits. -/
def toInt? : List Char → Option Int
  | '-' :: cs => (toNat? cs).map fun n => -(n : Int)
  | '+' :: cs => (toNat? cs).map fun n => (n : Int)
  | cs => (toNat? cs).map fun n => (n : Int)

/-- An integer that 64 bits with a sign can hold. -/
def toInt64? (n : Int) : Option Int64 :=
  if Int64.minValue.toInt ≤ n ∧ n ≤ Int64.maxValue.toInt then some (Int64.ofInt n) else none

def parse? (s : String) : Option Int64 := (toInt? s.toList).bind toInt64?

end ControlPlane.Text.Decimal
