import ControlPlane.Json.Basic
import ControlPlane.Text.Form

/-! Compact JSON text, with the members of an object in the order of their keys. -/
namespace ControlPlane.Json

/-- Quotes, backslashes and controls are escaped. All else is written as it is. -/
def escapeChar (c : Char) : List Char :=
  match c with
  | '"' => ['\\', '"']
  | '\\' => ['\\', '\\']
  | '\x08' => ['\\', 'b']
  | '\x0c' => ['\\', 'f']
  | '\n' => ['\\', 'n']
  | '\r' => ['\\', 'r']
  | '\t' => ['\\', 't']
  | c =>
    if c.toNat < 0x20 then
      ['\\', 'u', '0', '0', (Text.hexDigit (c.toNat / 16)).toLower,
        (Text.hexDigit (c.toNat % 16)).toLower]
    else [c]

def quoted (s : String) : List Char := '"' :: s.toList.flatMap escapeChar ++ ['"']

mutual

def compactChars : Json → List Char
  | .null => "null".toList
  | .bool b => (toString b).toList
  | .int n => Text.Decimal.ofInt n
  | .real literal => literal.toList
  | .str s => quoted s
  | .arr elements => '[' :: [','].intercalate (compactList elements) ++ [']']
  | .obj members =>
    let ordered := (compactMembers members).mergeSort fun a b => a.1 ≤ b.1
    '\x7b' :: [','].intercalate (ordered.map fun m => quoted m.1 ++ ':' :: m.2) ++ ['\x7d']
  | .garbled => "null".toList

def compactList : List Json → List (List Char)
  | [] => []
  | v :: vs => compactChars v :: compactList vs

def compactMembers : List (String × Json) → List (String × List Char)
  | [] => []
  | m :: ms => (m.1, compactChars m.2) :: compactMembers ms

end

def compact (value : Json) : String := String.ofList value.compactChars

end ControlPlane.Json
