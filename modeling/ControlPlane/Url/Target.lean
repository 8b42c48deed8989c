import ControlPlane.Text.Blank
import ControlPlane.Url.Host

/-!
The request target of an address: its path and its query as they are sent. Dot segments are
resolved, so a target names each place of the server in one way only.
-/
namespace ControlPlane.Url

/-- The ends lose their spaces and controls, and tabs and line ends count nowhere. -/
def clean (cs : List Char) : List Char :=
  (Text.trimWhile (fun c => c.toNat ≤ 0x20) cs).filter fun c =>
    c ≠ '\t' && c ≠ '\n' && c ≠ '\r'

def isSlash (c : Char) : Bool := c = '/' || c = '\\'

def isScheme (cs : List Char) : Bool :=
  let name := cs.map Char.toLower
  name = "http".toList || name = "https".toList

/-- The address after its scheme and authority. -/
def afterAuthority? (cs : List Char) : Option (List Char) :=
  match cs.span (· ≠ ':') with
  | (scheme, ':' :: rest) =>
    if isScheme scheme then
      let rest := rest.dropWhile isSlash
      let authority := rest.takeWhile fun c => !isSlash c && c ≠ '?' && c ≠ '#'
      if isAuthority authority then some (rest.drop authority.length) else none
    else none
  | _ => none

/-- Escaped dots count as dots. -/
def unescapeDots : List Char → List Char
  | '%' :: '2' :: 'e' :: cs => '.' :: unescapeDots cs
  | '%' :: '2' :: 'E' :: cs => '.' :: unescapeDots cs
  | c :: cs => c :: unescapeDots cs
  | [] => []

def isSingleDot (s : List Char) : Bool := unescapeDots s = ['.']

def isDoubleDot (s : List Char) : Bool := unescapeDots s = ['.', '.']

/--
Follows the segments from a place, whose own segments come last first. One dot stays there, two
dots go up and stop at the root, and dots at the end leave an empty last segment.
-/
def resolveFrom (place : List (List Char)) : List (List Char) → List (List Char)
  | [] => place
  | [s] =>
    if isDoubleDot s then [] :: place.drop 1
    else if isSingleDot s then [] :: place
    else s :: place
  | s :: rest =>
    if isDoubleDot s then resolveFrom (place.drop 1) rest
    else if isSingleDot s then resolveFrom place rest
    else resolveFrom (s :: place) rest

def resolve (ss : List (List Char)) : List (List Char) := (resolveFrom [] ss).reverse

def escapeUnless (plain : UInt8 → Bool) (cs : List Char) : List Char :=
  (Text.utf8 cs).flatMap fun b => if plain b then [Char.ofNat b.toNat] else Text.percent b

/-- Printable ASCII, less the characters `"`, `#`, `<`, `>`, `?`, `` ` `` and braces. -/
def isPathByte (b : UInt8) : Bool :=
  0x21 ≤ b && b ≤ 0x7E &&
    b ∉ [0x22, 0x23, 0x3C, 0x3E, 0x3F, 0x60, 0x7B, 0x7D]

/-- Printable ASCII, less the characters `"`, `#`, `<`, `>` and the single quote. -/
def isQueryByte (b : UInt8) : Bool :=
  0x21 ≤ b && b ≤ 0x7E && b ∉ [0x22, 0x23, 0x27, 0x3C, 0x3E]

/-- The path of what follows the authority. It starts with a slash. -/
def path (cs : List Char) : List Char :=
  let ss := resolve (Text.pieces isSlash (cs.drop 1))
  ss.flatMap fun s => '/' :: escapeUnless isPathByte s

/-- The query with parameters added to it, if there is any of them. -/
def query? (own : Option (List Char)) (params : List (String × String)) : Option (List Char) :=
  let own := own.map (escapeUnless isQueryByte)
  if params = [] then own
  else match own with
    | none | some [] => some (Text.Form.encode params)
    | some q => some (q ++ '&' :: Text.Form.encode params)

/-- There is no target without a scheme of the web and a host. A fragment is not sent. -/
def target? (url : String) (params : List (String × String)) : Option String :=
  (afterAuthority? (clean url.toList)).map fun rest =>
    let sent := rest.takeWhile (· ≠ '#')
    let own := match sent.dropWhile (· ≠ '?') with
      | [] => none
      | _ :: q => some q
    let tail := match query? own params with
      | none => []
      | some q => '?' :: q
    String.ofList (path (sent.takeWhile (· ≠ '?')) ++ tail)

end ControlPlane.Url
