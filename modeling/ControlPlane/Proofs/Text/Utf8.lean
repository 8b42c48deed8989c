import ControlPlane.Text.Utf8
import Mathlib

/-! Text is read back from its bytes. -/
namespace ControlPlane.Text

theorem toNat_byte {n : Nat} (h : n < 256) : (UInt8.ofNat n).toNat = n :=
  UInt8.toNat_ofNat_of_lt' h

theorem utf8_append (cs ds : List Char) : utf8 (cs ++ ds) = utf8 cs ++ utf8 ds :=
  List.flatMap_append

namespace Decoder
variable {decoded : List Char}

theorem step_pending {p : Unfinished} {b : UInt8} (hlow : p.low ≤ b) (hhigh : b ≤ p.high) :
    step ⟨decoded, some p⟩ b =
      if p.owed ≤ 1 then ⟨Char.ofNat (64 * p.value + (b.toNat - 0x80)) :: decoded, none⟩
      else ⟨decoded, some ⟨p.owed - 1, 64 * p.value + (b.toNat - 0x80), 0x80, 0xBF⟩⟩ := by
  simp only [step, if_pos (And.intro hlow hhigh)]

theorem start_of_two (decoded : List Char) {b : UInt8} (hlow : 0xC2 ≤ b.toNat)
    (hhigh : b.toNat ≤ 0xDF) :
    start decoded b = ⟨decoded, some ⟨1, b.toNat - 0xC0, 0x80, 0xBF⟩⟩ := by
  simp only [start, UInt8.lt_iff_toNat_lt, UInt8.le_iff_toNat_le, ← UInt8.toNat_inj,
    UInt8.reduceToNat]
  rw [if_neg (by omega), if_pos (by omega)]

/-- The second byte is bounded by the first one. -/
theorem step_start_of_three (decoded : List Char) {a b : UInt8} (ha : 0xE0 ≤ a.toNat)
    (ha' : a.toNat ≤ 0xEF) (hb : 0x80 ≤ b.toNat) (hb' : b.toNat ≤ 0xBF)
    (hlow : a.toNat = 0xE0 → 0xA0 ≤ b.toNat)
    (hhigh : a.toNat = 0xED → b.toNat ≤ 0x9F) :
    step (start decoded a) b =
      ⟨decoded, some ⟨1, 64 * (a.toNat - 0xE0) + (b.toNat - 0x80), 0x80, 0xBF⟩⟩ := by
  have hstart : ∃ low high, start decoded a = ⟨decoded, some ⟨2, a.toNat - 0xE0, low, high⟩⟩ ∧
      low ≤ b ∧ b ≤ high := by
    simp only [start, UInt8.lt_iff_toNat_lt, UInt8.le_iff_toNat_le, ← UInt8.toNat_inj,
      UInt8.reduceToNat]
    rw [if_neg (by omega), if_neg (by omega)]
    split_ifs with h₁ h₂ h₃
    · exact ⟨0xA0, 0xBF, by simp [h₁], hlow h₁, hb'⟩
    · exact ⟨0x80, 0x9F, by simp [h₂], hb, hhigh h₂⟩
    · exact ⟨0x80, 0xBF, rfl, hb, hb'⟩
    all_goals omega
  obtain ⟨low, high, hstart, hl, hh⟩ := hstart
  rw [hstart, step_pending hl hh]
  rfl

theorem step_start_of_four (decoded : List Char) {a b : UInt8} (ha : 0xF0 ≤ a.toNat)
    (ha' : a.toNat ≤ 0xF4) (hb : 0x80 ≤ b.toNat) (hb' : b.toNat ≤ 0xBF)
    (hlow : a.toNat = 0xF0 → 0x90 ≤ b.toNat)
    (hhigh : a.toNat = 0xF4 → b.toNat ≤ 0x8F) :
    step (start decoded a) b =
      ⟨decoded, some ⟨2, 64 * (a.toNat - 0xF0) + (b.toNat - 0x80), 0x80, 0xBF⟩⟩ := by
  have hstart : ∃ low high, start decoded a = ⟨decoded, some ⟨3, a.toNat - 0xF0, low, high⟩⟩ ∧
      low ≤ b ∧ b ≤ high := by
    simp only [start, UInt8.lt_iff_toNat_lt, UInt8.le_iff_toNat_le, ← UInt8.toNat_inj,
      UInt8.reduceToNat]
    rw [if_neg (by omega), if_neg (by omega), if_neg (by omega), if_neg (by omega),
      if_neg (by omega)]
    split_ifs with h₁ h₂ h₃
    · exact ⟨0x90, 0xBF, by simp [h₁], hlow h₁, hb'⟩
    · exact ⟨0x80, 0xBF, rfl, hb, hb'⟩
    · exact ⟨0x80, 0x8F, by simp [h₃], hb, hhigh h₃⟩
    all_goals omega
  obtain ⟨low, high, hstart, hl, hh⟩ := hstart
  rw [hstart, step_pending hl hh]
  rfl

/-- The last bytes of a character are between `0x80` and `0xBF`. -/
theorem step_tail {owed value n : Nat} (hn : n < 64) :
    step ⟨decoded, some ⟨owed, value, 0x80, 0xBF⟩⟩ (UInt8.ofNat (n + 128)) =
      if owed ≤ 1 then ⟨Char.ofNat (64 * value + n) :: decoded, none⟩
      else ⟨decoded, some ⟨owed - 1, 64 * value + n, 0x80, 0xBF⟩⟩ := by
  have hb : (UInt8.ofNat (n + 128)).toNat = n + 128 := toNat_byte (by omega)
  rw [step_pending, hb]
  · simp
  · rw [UInt8.le_iff_toNat_le, hb]
    exact Nat.le_add_left _ _
  · rw [UInt8.le_iff_toNat_le, hb]
    exact Nat.add_le_add_right (Nat.le_of_lt_succ hn) 128

theorem foldl_step_one {v : Nat} (h : v ≤ 0x7F) :
    [UInt8.ofNat v].foldl step ⟨decoded, none⟩ = ⟨Char.ofNat v :: decoded, none⟩ := by
  have ha : (UInt8.ofNat v).toNat = v := toNat_byte (by omega)
  have hstart : start decoded (UInt8.ofNat v) = ⟨Char.ofNat v :: decoded, none⟩ := by
    simp only [start, UInt8.lt_iff_toNat_lt, ha]
    exact if_pos (Nat.lt_succ_of_le h)
  rw [List.foldl_cons, List.foldl_nil]
  exact hstart

theorem foldl_step_two {v : Nat} (h : 0x7F < v) (h' : v ≤ 0x7FF) :
    [UInt8.ofNat (v / 64 % 32 + 192), UInt8.ofNat (v % 64 + 128)].foldl step ⟨decoded, none⟩ =
      ⟨Char.ofNat v :: decoded, none⟩ := by
  have ha : (UInt8.ofNat (v / 64 % 32 + 192)).toNat = v / 64 + 192 := by
    rw [toNat_byte (by omega)]
    omega
  have hstart : step ⟨decoded, none⟩ (UInt8.ofNat (v / 64 % 32 + 192)) =
      ⟨decoded, some ⟨1, v / 64, 0x80, 0xBF⟩⟩ := by
    have hlead := start_of_two decoded (b := UInt8.ofNat (v / 64 % 32 + 192))
      (by omega) (by omega)
    rwa [ha, Nat.add_sub_cancel] at hlead
  have hv : 64 * (v / 64) + v % 64 = v := by omega
  rw [List.foldl_cons, hstart, List.foldl_cons, step_tail (by omega), List.foldl_nil,
    if_pos (Nat.le_refl 1), hv]

/-- No character is among the surrogates, which the second byte rules out. -/
theorem foldl_step_three {v : Nat} (h : 0x7FF < v) (h' : v ≤ 0xFFFF)
    (hvalid : v < 0xD800 ∨ 0xDFFF < v) :
    [UInt8.ofNat (v / 4096 % 16 + 224), UInt8.ofNat (v / 64 % 64 + 128),
      UInt8.ofNat (v % 64 + 128)].foldl step ⟨decoded, none⟩ =
        ⟨Char.ofNat v :: decoded, none⟩ := by
  have ha : (UInt8.ofNat (v / 4096 % 16 + 224)).toNat = v / 4096 + 224 := by
    rw [toNat_byte (by omega)]
    omega
  have hb : (UInt8.ofNat (v / 64 % 64 + 128)).toNat = v / 64 % 64 + 128 := toNat_byte (by omega)
  have hstart : step (step ⟨decoded, none⟩ (UInt8.ofNat (v / 4096 % 16 + 224)))
      (UInt8.ofNat (v / 64 % 64 + 128)) = ⟨decoded, some ⟨1, v / 64, 0x80, 0xBF⟩⟩ := by
    have hlead := step_start_of_three decoded (a := UInt8.ofNat (v / 4096 % 16 + 224))
      (b := UInt8.ofNat (v / 64 % 64 + 128)) (by omega) (by omega) (by omega) (by omega)
      (by omega) (by omega)
    rw [ha, hb, Nat.add_sub_cancel, Nat.add_sub_cancel] at hlead
    have hvalue : 64 * (v / 4096) + v / 64 % 64 = v / 64 := by omega
    rwa [hvalue] at hlead
  have hv : 64 * (v / 64) + v % 64 = v := by omega
  rw [List.foldl_cons, List.foldl_cons, hstart, List.foldl_cons, step_tail (by omega),
    List.foldl_nil, if_pos (Nat.le_refl 1), hv]

theorem foldl_step_four {v : Nat} (h : 0xFFFF < v) (h' : v < 0x110000) :
    [UInt8.ofNat (v / 262144 % 8 + 240), UInt8.ofNat (v / 4096 % 64 + 128),
      UInt8.ofNat (v / 64 % 64 + 128), UInt8.ofNat (v % 64 + 128)].foldl step ⟨decoded, none⟩ =
        ⟨Char.ofNat v :: decoded, none⟩ := by
  have ha : (UInt8.ofNat (v / 262144 % 8 + 240)).toNat = v / 262144 + 240 := by
    rw [toNat_byte (by omega)]
    omega
  have hb : (UInt8.ofNat (v / 4096 % 64 + 128)).toNat = v / 4096 % 64 + 128 :=
    toNat_byte (by omega)
  have hstart : step (step ⟨decoded, none⟩ (UInt8.ofNat (v / 262144 % 8 + 240)))
      (UInt8.ofNat (v / 4096 % 64 + 128)) = ⟨decoded, some ⟨2, v / 4096, 0x80, 0xBF⟩⟩ := by
    have hlead := step_start_of_four decoded (a := UInt8.ofNat (v / 262144 % 8 + 240))
      (b := UInt8.ofNat (v / 4096 % 64 + 128)) (by omega) (by omega) (by omega) (by omega)
      (by omega) (by omega)
    rw [ha, hb, Nat.add_sub_cancel, Nat.add_sub_cancel] at hlead
    have hvalue : 64 * (v / 262144) + v / 4096 % 64 = v / 4096 := by omega
    rwa [hvalue] at hlead
  have hv : 64 * (64 * (v / 4096) + v / 64 % 64) + v % 64 = v := by omega
  rw [List.foldl_cons, List.foldl_cons, hstart, List.foldl_cons, step_tail (by omega),
    if_neg (by omega), List.foldl_cons, step_tail (by omega), List.foldl_nil,
    if_pos (Nat.le_refl 1)]
  rw [hv]

theorem foldl_step_utf8EncodeChar (c : Char) :
    (String.utf8EncodeChar c).foldl step ⟨decoded, none⟩ = ⟨c :: decoded, none⟩ := by
  have hc : Char.ofNat c.val.toNat = c := Char.ofNat_toNat c
  have hvalid : c.val.toNat < 0xD800 ∨ 0xDFFF < c.val.toNat ∧ c.val.toNat < 0x110000 := c.valid
  unfold String.utf8EncodeChar
  generalize c.val.toNat = v at hc hvalid ⊢
  rw [← hc]
  simp only
  split_ifs with h₁ h₂ h₃
  · exact foldl_step_one h₁
  · exact foldl_step_two (by omega) h₂
  · exact foldl_step_three (by omega) h₃ (by omega)
  · exact foldl_step_four (by omega) (by omega)

theorem foldl_step_utf8 (cs : List Char) :
    (utf8 cs).foldl step ⟨decoded, none⟩ = ⟨cs.reverse ++ decoded, none⟩ := by
  induction cs generalizing decoded with
  | nil => rfl
  | cons c cs ih =>
    rw [utf8, List.flatMap_cons, List.foldl_append, foldl_step_utf8EncodeChar, ← utf8, ih]
    simp

end Decoder

theorem lossy_utf8 (cs : List Char) : lossy (utf8 cs) = String.ofList cs := by
  rw [lossy, Decoder.foldl_step_utf8]
  simp [Decoder.finish]

theorem utf8_injective {cs ds : List Char} (h : utf8 cs = utf8 ds) : cs = ds := by
  have hread := congrArg lossy h
  rw [lossy_utf8, lossy_utf8] at hread
  exact String.ofList_injective hread

theorem strict?_utf8 (cs : List Char) : strict? (utf8 cs) = some (String.ofList cs) := by
  have hbytes : (⟨(utf8 cs).toArray⟩ : ByteArray) = (String.ofList cs).toByteArray := by
    rw [String.toByteArray_ofList, List.utf8Encode]
    exact ByteArray.ext (List.data_toByteArray (l := utf8 cs)).symm
  rw [strict?, hbytes, String.fromUTF8?, dif_pos (String.ofList cs).isValidUTF8]
  rfl

/-- A character that is not encoded as itself has no byte in common with another. -/
theorem toNat_of_mem_utf8EncodeChar {c : Char} {b : UInt8} (h : b ∈ String.utf8EncodeChar c) :
    0x80 ≤ b.toNat ∨ b.toNat = c.toNat := by
  have hc : c.toNat = c.val.toNat := rfl
  unfold String.utf8EncodeChar at h
  rw [hc]
  generalize c.val.toNat = v at h ⊢
  simp only at h
  split_ifs at h <;> simp only [List.mem_cons, List.not_mem_nil, or_false] at h
  · right
    rw [h, toNat_byte (by omega)]
  · left
    rcases h with rfl | rfl <;> rw [toNat_byte (by omega)] <;> omega
  · left
    rcases h with rfl | rfl | rfl <;> rw [toNat_byte (by omega)] <;> omega
  · left
    rcases h with rfl | rfl | rfl | rfl <;> rw [toNat_byte (by omega)] <;> omega

end ControlPlane.Text
