import ControlPlane.Text.Blank
import ControlPlane.Text.Decimal
import ControlPlane.Text.Form

/-! The lexemes of JSON text. -/
namespace ControlPlane.Json

inductive Token where
  | braceOpen
  | braceClose
  | bracketOpen
  | bracketClose
  | colon
  | comma
  | null
  | bool (b : Bool)
  | int (n : Int)
  | real (literal : String)
  /-- A string, or `none` when its text is ill-formed. -/
  | str (s : Option String)

namespace Token

def isSpace (b : UInt8) : Bool := b = 0x20 || b = 0x9 || b = 0xA || b = 0xD

def isDigit (b : UInt8) : Bool := 0x30 ≤ b && b ≤ 0x39

def unit? : List UInt8 → Option Nat
  | [a, b, c, d] => do
    return 0x1000 * (← Text.hexValue? a) + 0x100 * (← Text.hexValue? b) +
      0x10 * (← Text.hexValue? c) + (← Text.hexValue? d)
  | _ => none

def isHighSurrogate (u : Nat) : Bool := 0xD800 ≤ u && u < 0xDC00

def isLowSurrogate (u : Nat) : Bool := 0xDC00 ≤ u && u < 0xE000

/-- The part of a string that is read, the last byte first. -/
structure Literal where
  bytes : List UInt8 := []
  /-- The high surrogate that waits for a low one. -/
  high : Option Nat := none
  wellFormed : Bool := true

namespace Literal

def push (t : Literal) (bytes : List UInt8) : Literal :=
  ⟨bytes.reverse ++ t.bytes, none, t.wellFormed && t.high.isNone⟩

def pushCode (t : Literal) (n : Nat) : Literal := t.push (String.utf8EncodeChar (Char.ofNat n))

/-- Takes a code unit. Surrogates make a character in pairs, high before low. -/
def pushUnit (t : Literal) (u : Nat) : Literal :=
  match t.high with
  | some high =>
    if isLowSurrogate u then
      { t with high := none }.pushCode (0x10000 + 0x400 * (high - 0xD800) + (u - 0xDC00))
    else if isHighSurrogate u then ⟨t.bytes, some u, false⟩
    else t.pushCode u
  | none =>
    if isHighSurrogate u then { t with high := some u }
    else if isLowSurrogate u then { t with wellFormed := false }
    else t.pushCode u

def finish (t : Literal) : Option String :=
  if t.wellFormed && t.high.isNone then Text.strict? t.bytes.reverse else none

end Literal

def simpleEscape? (b : UInt8) : Option UInt8 :=
  if b = 0x22 ∨ b = 0x5C ∨ b = 0x2F then some b
  else if b = 0x62 then some 0x8
  else if b = 0x66 then some 0xC
  else if b = 0x6E then some 0xA
  else if b = 0x72 then some 0xD
  else if b = 0x74 then some 0x9
  else none

/-- Reads a string after its opening quote. -/
def string? (t : Literal) : List UInt8 → Option (Option String × List UInt8)
  | [] => none
  | b :: rest =>
    if b = 0x22 then some (t.finish, rest)
    else if b = 0x5C then
      match rest with
      | 0x75 :: d₁ :: d₂ :: d₃ :: d₄ :: rest =>
        match unit? [d₁, d₂, d₃, d₄] with
        | some u => string? (t.pushUnit u) rest
        | none => none
      | e :: rest =>
        match simpleEscape? e with
        | some c => string? (t.push [c]) rest
        | none => none
      | [] => none
    else if b < 0x20 then none
    else string? (t.push [b]) rest

def ascii (bytes : List UInt8) : List Char := bytes.map fun b => Char.ofNat b.toNat

/-- The digits at the front. -/
def digits (bytes : List UInt8) : List UInt8 × List UInt8 := bytes.span isDigit

/-- The digits before a fraction. A leading zero stands alone. -/
def integerPart? (bytes : List UInt8) : Option (List UInt8 × List UInt8) :=
  match digits bytes with
  | ([], _) => none
  | (0x30 :: _ :: _, _) => none
  | (ds, rest) => some (ds, rest)

/-- A mark and at least one digit, or nothing where there is no mark. -/
def fraction? : List UInt8 → Option (List UInt8 × List UInt8)
  | 0x2E :: rest =>
    match digits rest with
    | ([], _) => none
    | (ds, rest) => some (0x2E :: ds, rest)
  | bytes => some ([], bytes)

def exponent? (bytes : List UInt8) : Option (List UInt8 × List UInt8) :=
  match bytes with
  | [] => some ([], [])
  | e :: rest =>
    if e = 0x65 ∨ e = 0x45 then
      let sign := rest.takeWhile (fun b => b = 0x2B || b = 0x2D)
      match digits (rest.drop sign.length) with
      | ([], _) => none
      | (ds, rest) => if sign.length ≤ 1 then some (e :: sign ++ ds, rest) else none
    else some ([], bytes)

/-- Reads a number without its sign. -/
def number? (negative : Bool) (bytes : List UInt8) : Option (Token × List UInt8) := do
  let (whole, rest) ← integerPart? bytes
  let (fraction, rest) ← fraction? rest
  let (exponent, rest) ← exponent? rest
  let magnitude := Text.Decimal.value (ascii whole)
  if fraction = [] ∧ exponent = [] ∧ (negative → magnitude ≠ 0) then
    return (.int (if negative then -(magnitude : Int) else magnitude), rest)
  else
    let sign := if negative then ['-'] else []
    return (.real (String.ofList (sign ++ ascii (whole ++ fraction ++ exponent))), rest)

def word? (bytes : List UInt8) : Option (Token × List UInt8) :=
  match bytes with
  | 0x6E :: 0x75 :: 0x6C :: 0x6C :: rest => some (.null, rest)
  | 0x74 :: 0x72 :: 0x75 :: 0x65 :: rest => some (.bool true, rest)
  | 0x66 :: 0x61 :: 0x6C :: 0x73 :: 0x65 :: rest => some (.bool false, rest)
  | _ => none

/-- Reads the lexeme that starts with `b`. -/
def next? (b : UInt8) (rest : List UInt8) : Option (Token × List UInt8) :=
  if b = 0x7B then some (.braceOpen, rest)
  else if b = 0x7D then some (.braceClose, rest)
  else if b = 0x5B then some (.bracketOpen, rest)
  else if b = 0x5D then some (.bracketClose, rest)
  else if b = 0x3A then some (.colon, rest)
  else if b = 0x2C then some (.comma, rest)
  else if b = 0x22 then (string? {} rest).map fun (s, rest) => (.str s, rest)
  else if b = 0x2D then number? true rest
  else if isDigit b then number? false (b :: rest)
  else word? (b :: rest)

/-- Reads lexemes until the text ends. Each takes a byte at least, so `fuel` bytes suffice. -/
def scanFrom (fuel : Nat) (found : List Token) (bytes : List UInt8) : Option (List Token) :=
  match fuel, bytes.dropWhile isSpace with
  | _, [] => some found.reverse
  | 0, _ => none
  | fuel + 1, b :: rest =>
    match next? b rest with
    | none => none
    | some (token, rest) => scanFrom fuel (token :: found) rest

def scan? (bytes : List UInt8) : Option (List Token) := scanFrom bytes.length [] bytes

end Token
end ControlPlane.Json
