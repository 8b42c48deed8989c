import ControlPlane.Text.Decimal
import ControlPlane.Text.Form
import ControlPlane.Text.Pieces

/-!
The authority of an address: a user, a host and a port. A host is a name, four numbers with dots
between them, or eight groups in brackets. Characters of a name beyond ASCII are not looked into.
-/
namespace ControlPlane.Url

namespace Host

def digit? (base : Nat) (c : Char) : Option Nat :=
  if c.toNat < 0x80 then (Text.hexValue? c.val.toUInt8).filter (· < base) else none

def number? (base : Nat) (ds : List Char) : Option Nat :=
  (ds.mapM (digit? base)).map fun vs => vs.foldl (fun n d => base * n + d) 0

/-- A number is hexadecimal after `0x`, octal after another zero, and decimal elsewhere. -/
def part? : List Char → Option Nat
  | [] => none
  | '0' :: 'x' :: ds => number? 16 ds
  | '0' :: 'X' :: ds => number? 16 ds
  | '0' :: ds => number? 8 ds
  | ds => number? 10 ds

/-- The parts between dots. One dot at the end counts for nothing. -/
def parts (cs : List Char) : List (List Char) :=
  let ps := Text.pieces (· = '.') cs
  if 1 < ps.length ∧ ps.getLast? = some [] then ps.dropLast else ps

/-- A host whose last part is a number is no name. -/
def isNumeric (ps : List (List Char)) : Bool :=
  ps.getLast?.any fun p => p ≠ [] && (p.all Text.Decimal.isDigit || (part? p).isSome)

/-- Up to four numbers. The last of them fills the bytes that the others leave. -/
def isNumbers (ps : List (List Char)) : Bool :=
  (ps.mapM part?).any fun ns =>
    ns.length ≤ 4 && ns.dropLast.all (· ≤ 255) && ns.getLast?.all (· < Nat.pow 256 (5 - ns.length))

/-- No host holds a blank, a control or a sign that parts an address. -/
def isNameChar (c : Char) : Bool :=
  0x21 ≤ c.toNat && c.toNat ≠ 0x7F &&
    c ∉ ['#', '%', '/', ':', '<', '>', '?', '@', '[', '\\', ']', '^', '|']

/-- Escapes count as the bytes that they stand for. -/
def isName (cs : List Char) : Bool :=
  let name := (Text.unescape (Text.utf8 cs)).map fun b => Char.ofNat b.toNat
  name ≠ [] && name.all isNameChar && (!isNumeric (parts name) || isNumbers (parts name))

def isGroup (cs : List Char) : Bool := cs ≠ [] && cs.length ≤ 4 && (number? 16 cs).isSome

/-- Four decimal bytes without needless zeros. -/
def isDotted (cs : List Char) : Bool :=
  let ps := Text.pieces (· = '.') cs
  ps.length = 4 && ps.all fun p =>
    (number? 10 p).any (· ≤ 255) && p ≠ [] && (p.head? ≠ some '0' || p.length = 1)

/-- The number of groups. Four bytes at the end count as two of them. -/
def groups? (cs : List Char) : Option Nat :=
  let ps := Text.pieces (· = ':') cs
  if cs = [] then some 0
  else if ps.all isGroup then some ps.length
  else if ps.dropLast.all isGroup && ps.getLast?.any isDotted then some (ps.length + 1)
  else none

/-- The text before and after the first two colons that stand together. -/
def atGap : List Char → List Char × Option (List Char)
  | [] => ([], none)
  | ':' :: ':' :: cs => ([], some cs)
  | c :: cs => (c :: (atGap cs).1, (atGap cs).2)

/-- Eight groups. A gap stands for one or more of them. -/
def isGroups (cs : List Char) : Bool :=
  match atGap cs with
  | (groups, none) => groups? groups = some 8
  | (before, some after) =>
    !before.contains '.' && (groups? before).any fun m => (groups? after).any fun n => m + n ≤ 7

end Host

/-- Nothing, or a colon and a port. A port without digits is the usual one. -/
def isPort : List Char → Bool
  | [] => true
  | ':' :: ds => ds.all Text.Decimal.isDigit && Text.Decimal.value ds ≤ 65535
  | _ => false

/-- Whether there is a host after the user, and nothing but a port after the host. -/
def isAuthority (cs : List Char) : Bool :=
  match (cs.reverse.takeWhile (· ≠ '@')).reverse with
  | '[' :: place =>
    match place.span (· ≠ ']') with
    | (host, ']' :: port) => Host.isGroups host && isPort port
    | _ => false
  | place =>
    match place.span (· ≠ ':') with
    | (host, port) => Host.isName host && isPort port

end ControlPlane.Url
