import ControlPlane.Proofs.Text.Form
import ControlPlane.Url.Target

/-!
What escapes mean. To escape what is not plain changes nothing of what a text stands for, since a
sign that begins no escape begins none afterwards either.
-/
namespace ControlPlane.Text

/-- Two digits of an escape come first. -/
def Digits (bs : List UInt8) : Prop :=
  ∃ h l rest, bs = h :: l :: rest ∧ (hexValue? h).isSome ∧ (hexValue? l).isSome

theorem unescape_sign {bs : List UInt8} (h : ¬ Digits bs) :
    unescape (0x25 :: bs) = 0x25 :: unescape bs := by
  match bs with
  | [] => rfl
  | [b] => rfl
  | high :: low :: rest =>
    cases hh : hexValue? high with
    | none => simp only [unescape, hh]
    | some m =>
      cases hl : hexValue? low with
      | none => simp only [unescape, hh, hl]
      | some n => exact absurd ⟨high, low, rest, rfl, by simp [hh], by simp [hl]⟩ h

theorem length_unescape_le (bs : List UInt8) : (unescape bs).length ≤ bs.length := by
  fun_induction unescape bs with
  | case1 h l rest high low _ _ ih =>
    simp only [List.length_cons]
    omega
  | case2 h l rest hnot ih =>
    simp only [List.length_cons] at ih ⊢
    omega
  | case3 b rest hnot ih =>
    simp only [List.length_cons]
    omega
  | case4 => exact Nat.le_refl 0

end ControlPlane.Text

namespace ControlPlane.Url
open Text (unescape utf8 hexValue?)

/-- The bytes that a byte is written with. -/
def escapeByte (b : UInt8) : List UInt8 :=
  if isPathByte b then [b]
  else [0x25, Text.Form.hexByte (b.toNat / 16), Text.Form.hexByte (b.toNat % 16)]

theorem escapeByte_of_isPathByte {b : UInt8} (h : isPathByte b) : escapeByte b = [b] := if_pos h

theorem utf8_escapeUnless (cs : List Char) :
    utf8 (escapeUnless isPathByte cs) = (utf8 cs).flatMap escapeByte := by
  have hbyte (b : UInt8) :
      utf8 (if isPathByte b then [Char.ofNat b.toNat] else Text.percent b) = escapeByte b := by
    unfold escapeByte
    split_ifs with h
    · refine Text.Form.utf8_ofNat_toNat ?_
      simp only [isPathByte, Bool.and_eq_true, decide_eq_true_eq, UInt8.le_iff_toNat_le] at h
      exact Nat.lt_of_le_of_lt h.1.2 (by decide)
    · have hhigh := Text.Form.utf8_hexDigit (Nat.div_lt_of_lt_mul b.toNat_lt : b.toNat / 16 < 16)
      have hlow := Text.Form.utf8_hexDigit (Nat.mod_lt _ (by decide) : b.toNat % 16 < 16)
      simp only [Text.percent, utf8, List.flatMap_cons, List.flatMap_nil, hhigh.2, hlow.2]
      rfl
  have hflat := List.flatMap_assoc (l := utf8 cs)
    (f := fun b => if isPathByte b then [Char.ofNat b.toNat] else Text.percent b)
    (g := String.utf8EncodeChar)
  rw [escapeUnless, utf8, hflat]
  exact List.flatMap_congr fun b _ => hbyte b

set_option maxRecDepth 8000 in
theorem isPathByte_of_hexValue? {b : UInt8} (h : (hexValue? b).isSome) : isPathByte b := by
  have hall : ∀ n < 256, (hexValue? (UInt8.ofNat n)).isSome → isPathByte (UInt8.ofNat n) := by
    decide
  have hb := hall b.toNat b.toNat_lt
  rw [UInt8.ofNat_toNat] at hb
  exact hb h

theorem escapeByte_cases (b : UInt8) :
    isPathByte b ∧ escapeByte b = [b] ∨
      ∃ h l, escapeByte b = [0x25, h, l] ∧
        ∀ rest, unescape (0x25 :: h :: l :: rest) = b :: unescape rest := by
  by_cases hb : isPathByte b
  · exact .inl ⟨hb, if_pos hb⟩
  · refine .inr ⟨_, _, if_neg hb, fun rest => ?_⟩
    have hhigh : b.toNat / 16 < 16 := Nat.div_lt_of_lt_mul b.toNat_lt
    have hlow : b.toNat % 16 < 16 := Nat.mod_lt _ (by decide)
    rw [Text.unescape_percent (Text.Form.hexValue?_hexByte hhigh)
      (Text.Form.hexValue?_hexByte hlow), Nat.div_add_mod, UInt8.ofNat_toNat]

/-- No digits come first that were not first before. -/
theorem digits_of_flatMap_escapeByte {bs : List UInt8}
    (hdigits : Text.Digits (bs.flatMap escapeByte)) : Text.Digits bs := by
  obtain ⟨h, l, rest, heq, hh, hl⟩ := hdigits
  have hsign : ¬ (hexValue? 0x25).isSome := by decide
  match bs with
  | [] => cases heq
  | b :: bs =>
    rw [List.flatMap_cons] at heq
    rcases escapeByte_cases b with ⟨-, hb⟩ | ⟨_, _, hb, -⟩
    · rw [hb, List.singleton_append] at heq
      obtain ⟨rfl, htail⟩ := List.cons.inj heq
      match bs with
      | [] => cases htail
      | c :: bs =>
        rw [List.flatMap_cons] at htail
        rcases escapeByte_cases c with ⟨-, hc⟩ | ⟨_, _, hc, -⟩
        · rw [hc, List.singleton_append] at htail
          obtain ⟨rfl, -⟩ := List.cons.inj htail
          exact ⟨b, c, bs, rfl, hh, hl⟩
        · rw [hc] at htail
          obtain ⟨rfl, -⟩ := List.cons.inj htail
          exact absurd hl hsign
    · rw [hb] at heq
      obtain ⟨rfl, -⟩ := List.cons.inj heq
      exact absurd hh hsign

theorem unescape_flatMap_escapeByte (bs : List UInt8) :
    unescape (bs.flatMap escapeByte) = unescape bs := by
  induction bs using Text.unescape.induct with
  | case1 h l rest high low hl hh ih =>
    have hhigh := isPathByte_of_hexValue? (b := h) (by simp [hh])
    have hlow := isPathByte_of_hexValue? (b := l) (by simp [hl])
    simp only [List.flatMap_cons, escapeByte_of_isPathByte (show isPathByte 0x25 by decide),
      escapeByte_of_isPathByte hhigh, escapeByte_of_isPathByte hlow, List.singleton_append]
    rw [Text.unescape_percent hh hl, Text.unescape_percent hh hl, ih]
  | case2 h l rest hnot ih =>
    have hdigits : ¬ Text.Digits (h :: l :: rest) := by
      rintro ⟨_, _, _, heq, hh, hl⟩
      cases heq
      obtain ⟨m, hm⟩ := Option.isSome_iff_exists.mp hh
      obtain ⟨n, hn⟩ := Option.isSome_iff_exists.mp hl
      exact hnot m n hm hn
    rw [List.flatMap_cons, escapeByte_of_isPathByte (by decide), List.singleton_append,
      Text.unescape_sign (mt digits_of_flatMap_escapeByte hdigits), Text.unescape_sign hdigits, ih]
  | case3 b rest hnot ih =>
    rw [List.flatMap_cons]
    by_cases hb : b = 0x25
    · have hdigits : ¬ Text.Digits rest := by
        rintro ⟨h, l, rest', rfl, -, -⟩
        exact hnot h l rest' hb rfl
      rw [hb, escapeByte_of_isPathByte (by decide), List.singleton_append,
        Text.unescape_sign (mt digits_of_flatMap_escapeByte hdigits), Text.unescape_sign hdigits,
        ih]
    · rw [Text.unescape_cons hb]
      rcases escapeByte_cases b with ⟨-, heq⟩ | ⟨h, l, heq, hback⟩
      · rw [heq, List.singleton_append, Text.unescape_cons hb, ih]
      · rw [heq]
        exact (hback _).trans (congrArg (b :: ·) ih)
  | case4 => rfl

/-- What is escaped stands for what it stood for before. -/
theorem unescape_escapeUnless (cs : List Char) :
    unescape (utf8 (escapeUnless isPathByte cs)) = unescape (utf8 cs) := by
  rw [utf8_escapeUnless, unescape_flatMap_escapeByte]

end ControlPlane.Url
