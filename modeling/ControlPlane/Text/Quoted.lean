import ControlPlane.Text.Printable

/-! Text in double quotes, for people to read. -/
namespace ControlPlane.Text.Quoted

def hexDigit (n : Nat) : Char := if n < 10 then Char.ofNat (0x30 + n) else Char.ofNat (0x57 + n)

/-- The hexadecimal digits of `n`, the last one first. -/
def reversedHex (n : Nat) : List Char :=
  if h : n < 16 then [hexDigit n] else hexDigit (n % 16) :: reversedHex (n / 16)
termination_by n
decreasing_by omega

/-- A character that is not printable is written by its code point, unless it has a short escape. -/
def escape (c : Char) : List Char :=
  match c with
  | '"' => ['\\', '"']
  | '\\' => ['\\', '\\']
  | '\n' => ['\\', 'n']
  | '\r' => ['\\', 'r']
  | '\t' => ['\\', 't']
  | '\x00' => ['\\', '0']
  | c =>
    if isPrintable c then [c]
    else ['\\', 'u', '\x7b'] ++ (reversedHex c.toNat).reverse ++ ['\x7d']

def quote (s : String) : String := String.ofList ('"' :: s.toList.flatMap escape ++ ['"'])

end ControlPlane.Text.Quoted
