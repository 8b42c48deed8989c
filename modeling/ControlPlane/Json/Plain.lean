import ControlPlane.Json.Basic

/-!
JSON read for its own sake: nested to a limited depth, without ill-formed text and without numbers
that no double comes near.
-/
namespace ControlPlane.Json

def maxDepth : Nat := 127

/-- The last of the members with one key counts. -/
def lastMembers : List (String × Json) → List (String × Json)
  | [] => []
  | m :: ms => if ms.any (·.1 = m.1) then lastMembers ms else m :: lastMembers ms

/-- From here on, the nearest double is infinite. -/
def doubleLimit : Nat := Nat.pow 2 1024 - Nat.pow 2 970

/-- The digits of a number, and the power of ten that they count. -/
def scientific (literal : List Char) : Nat × Int :=
  let (whole, rest) := (literal.dropWhile (· = '-')).span Text.Decimal.isDigit
  let (fraction, rest) := match rest with
    | '.' :: rest => rest.span Text.Decimal.isDigit
    | rest => ([], rest)
  let exponent := (Text.Decimal.toInt? (rest.drop 1)).getD 0
  (Text.Decimal.value (whole ++ fraction), exponent - fraction.length)

/--
Whether the number is near a finite double. It is below one if its point stands before all of its
digits, and beyond the limit if over 308 zeros follow them.
-/
def isFinite (literal : String) : Bool :=
  match scientific literal.toList with
  | (0, _) => true
  | (digits, .ofNat zeros) => zeros ≤ 308 && digits * Nat.pow 10 zeros < doubleLimit
  | (digits, .negSucc n) => literal.length ≤ n + 1 || digits < doubleLimit * Nat.pow 10 (n + 1)

/-- Keeps a value that opens at most `depth` arrays and objects within each other. -/
def within? (depth : Nat) (value : Json) : Option Json :=
  match depth, value with
  | _, .garbled => none
  | _, .int n => if n.natAbs < doubleLimit then some (.int n) else none
  | _, .real literal => if isFinite literal then some (.real literal) else none
  | 0, .arr _ => none
  | 0, .obj _ => none
  | depth + 1, .arr elements => (elements.mapM (within? depth)).map .arr
  | depth + 1, .obj members =>
    (members.mapM fun m => (within? depth m.2).map fun v => (m.1, v)).map
      fun ms => .obj (lastMembers ms)
  | _, value => some value

def plain? (value : Json) : Option Json := within? maxDepth value

end ControlPlane.Json
