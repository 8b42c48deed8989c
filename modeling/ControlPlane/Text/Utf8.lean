/-! Text as UTF-8 bytes. -/
namespace ControlPlane.Text

def utf8 (cs : List Char) : List UInt8 := cs.flatMap String.utf8EncodeChar

/-- A character whose last `owed` bytes are still to come, the next one between `low` and `high`. -/
structure Unfinished where
  owed : Nat
  value : Nat
  low : UInt8
  high : UInt8

structure Decoder where
  /-- The characters read so far, the last one first. -/
  decoded : List Char
  pending : Option Unfinished

namespace Decoder

def replacement : Char := '\uFFFD'

/-- A lead byte bounds the byte after it, so that no character has two encodings. -/
def start (decoded : List Char) (b : UInt8) : Decoder :=
  if b < 0x80 then ⟨Char.ofNat b.toNat :: decoded, none⟩
  else if 0xC2 ≤ b ∧ b ≤ 0xDF then ⟨decoded, some ⟨1, b.toNat - 0xC0, 0x80, 0xBF⟩⟩
  else if b = 0xE0 then ⟨decoded, some ⟨2, 0, 0xA0, 0xBF⟩⟩
  else if b = 0xED then ⟨decoded, some ⟨2, 0xD, 0x80, 0x9F⟩⟩
  else if 0xE1 ≤ b ∧ b ≤ 0xEF then ⟨decoded, some ⟨2, b.toNat - 0xE0, 0x80, 0xBF⟩⟩
  else if b = 0xF0 then ⟨decoded, some ⟨3, 0, 0x90, 0xBF⟩⟩
  else if 0xF1 ≤ b ∧ b ≤ 0xF3 then ⟨decoded, some ⟨3, b.toNat - 0xF0, 0x80, 0xBF⟩⟩
  else if b = 0xF4 then ⟨decoded, some ⟨3, 4, 0x80, 0x8F⟩⟩
  else ⟨replacement :: decoded, none⟩

/-- A byte that cannot continue the pending character ends it and starts anew. -/
def step (d : Decoder) (b : UInt8) : Decoder :=
  match d.pending with
  | none => start d.decoded b
  | some p =>
    if p.low ≤ b ∧ b ≤ p.high then
      let value := 64 * p.value + (b.toNat - 0x80)
      if p.owed ≤ 1 then ⟨Char.ofNat value :: d.decoded, none⟩
      else ⟨d.decoded, some ⟨p.owed - 1, value, 0x80, 0xBF⟩⟩
    else start (replacement :: d.decoded) b

def finish (d : Decoder) : List Char :=
  (if d.pending.isSome then replacement :: d.decoded else d.decoded).reverse

end Decoder

/-- Decodes UTF-8. Each maximal ill-formed sequence becomes one replacement character. -/
def lossy (bytes : List UInt8) : String :=
  String.ofList (bytes.foldl Decoder.step ⟨[], none⟩).finish

/-- Decodes well-formed UTF-8. -/
def strict? (bytes : List UInt8) : Option String := String.fromUTF8? ⟨bytes.toArray⟩

end ControlPlane.Text
