import ControlPlane.Proofs.Text.Pieces
import ControlPlane.Proofs.Text.Utf8
import ControlPlane.Text.Form

/-! Forms are read back as the pairs that they are made of, whatever these hold. -/
namespace ControlPlane.Text

theorem toNat_ofNat_toNat (b : UInt8) : (Char.ofNat b.toNat).toNat = b.toNat := by
  have hvalid : b.toNat.isValidChar := .inl (Nat.lt_trans b.toNat_lt (by decide))
  rw [Char.ofNat, dif_pos hvalid]
  rfl

theorem eq_of_ofNat_toNat_eq {b : UInt8} {c : Char} (h : Char.ofNat b.toNat = c) :
    b = UInt8.ofNat c.toNat := by
  rw [← h, toNat_ofNat_toNat, UInt8.ofNat_toNat]

/-- An escape is made of a sign and two digits. -/
theorem mem_percent {b : UInt8} {c : Char} (hc : c ∈ percent b) :
    c = '%' ∨ ∃ n < 16, c = hexDigit n := by
  have hb := b.toNat_lt
  simp only [percent, List.mem_cons, List.not_mem_nil, or_false] at hc
  rcases hc with rfl | rfl | rfl
  · exact .inl rfl
  · exact .inr ⟨b.toNat / 16, by omega, rfl⟩
  · exact .inr ⟨b.toNat % 16, by omega, rfl⟩

theorem unescape_cons {b : UInt8} (hb : b ≠ 0x25) (rest : List UInt8) :
    unescape (b :: rest) = b :: unescape rest := by
  rw [unescape]
  intro h l rest' hb'
  exact absurd hb' hb

theorem unescape_percent {h l : UInt8} {high low : Nat} (hh : hexValue? h = some high)
    (hl : hexValue? l = some low) (rest : List UInt8) :
    unescape (0x25 :: h :: l :: rest) = UInt8.ofNat (16 * high + low) :: unescape rest := by
  simp only [unescape, hh, hl]

namespace Form

/-- What a plus sign stands for is a space. -/
def spaced (cs : List Char) : List Char := cs.map fun c => if c = '+' then ' ' else c

def decodeText (cs : List Char) : String := lossy (unescape (utf8 (spaced cs)))

/-- A piece of a form: a name and its value, with an equals sign between them. -/
def decodePair (cs : List Char) : String × String :=
  (decodeText (cs.takeWhile (· ≠ '=')), decodeText ((cs.dropWhile (· ≠ '=')).drop 1))

/-- The pairs of a form. An empty piece holds no pair. -/
def decode (cs : List Char) : List (String × String) :=
  ((pieces (· = '&') cs).filter (· ≠ [])).map decodePair

/-- The signs that part a form into pairs, and a pair into its name and its value. -/
def isSign (c : Char) : Bool := c = '&' || c = '='

theorem not_isSign_of_mem_encodeByte {b : UInt8} {c : Char} (hc : c ∈ encodeByte b) :
    ¬ isSign c := by
  unfold encodeByte at hc
  split_ifs at hc with hspace hplain
  · obtain rfl := List.mem_singleton.mp hc
    decide
  · obtain rfl := List.mem_singleton.mp hc
    intro h
    simp only [isSign, Bool.or_eq_true, decide_eq_true_eq] at h
    rcases h with h | h
    · rw [eq_of_ofNat_toNat_eq h] at hplain
      contradiction
    · rw [eq_of_ofNat_toNat_eq h] at hplain
      contradiction
  · rcases mem_percent hc with rfl | ⟨n, hn, rfl⟩
    · decide
    · clear hc
      revert n
      decide

/-- The byte of a digit of an escape. -/
def hexByte (n : Nat) : UInt8 := UInt8.ofNat (hexDigit n).toNat

theorem hexValue?_hexByte {n : Nat} (hn : n < 16) : hexValue? (hexByte n) = some n := by
  revert n
  decide

theorem utf8_hexDigit {n : Nat} (hn : n < 16) :
    (if hexDigit n = '+' then ' ' else hexDigit n) = hexDigit n ∧
      String.utf8EncodeChar (hexDigit n) = [hexByte n] := by
  revert n
  decide

theorem utf8_ofNat_toNat {b : UInt8} (hb : b.toNat < 128) : utf8 [Char.ofNat b.toNat] = [b] := by
  have hvalue : (Char.ofNat b.toNat).val.toNat = b.toNat := toNat_ofNat_toNat b
  rw [utf8, List.flatMap_singleton, String.utf8EncodeChar, hvalue]
  simp only [if_pos (Nat.le_of_lt_succ hb), UInt8.ofNat_toNat]

theorem utf8_spaced_percent (b : UInt8) :
    utf8 (spaced (percent b)) = [0x25, hexByte (b.toNat / 16), hexByte (b.toNat % 16)] := by
  have hhigh := utf8_hexDigit (show b.toNat / 16 < 16 from Nat.div_lt_of_lt_mul b.toNat_lt)
  have hlow := utf8_hexDigit (show b.toNat % 16 < 16 from Nat.mod_lt _ (by decide))
  simp only [percent, spaced, List.map_cons, List.map_nil, hhigh.1, hlow.1, utf8,
    List.flatMap_cons, List.flatMap_nil, hhigh.2, hlow.2]
  rfl

theorem isPlain_bounds {b : UInt8} (h : isPlain b) : b.toNat < 128 ∧ b ≠ 0x25 ∧ b ≠ 0x2B := by
  refine ⟨?_, ?_, ?_⟩
  · simp only [isPlain, Bool.or_eq_true, Bool.and_eq_true, decide_eq_true_eq,
      UInt8.le_iff_toNat_le, ← UInt8.toNat_inj, UInt8.reduceToNat] at h
    omega
  · intro hb
    rw [hb] at h
    contradiction
  · intro hb
    rw [hb] at h
    contradiction

theorem utf8_spaced_encodeByte (b : UInt8) :
    utf8 (spaced (encodeByte b)) = [b] ∧ b ≠ 0x25 ∨
      utf8 (spaced (encodeByte b)) = [0x25, hexByte (b.toNat / 16), hexByte (b.toNat % 16)] := by
  unfold encodeByte
  split_ifs with hspace hplain
  · rw [hspace]
    exact .inl ⟨rfl, by decide⟩
  · obtain ⟨hascii, hpercent, hplus⟩ := isPlain_bounds hplain
    have hne : Char.ofNat b.toNat ≠ '+' := fun h => hplus (eq_of_ofNat_toNat_eq h)
    rw [spaced, List.map_singleton, if_neg hne]
    exact .inl ⟨utf8_ofNat_toNat hascii, hpercent⟩
  · exact .inr (utf8_spaced_percent b)

theorem unescape_encodeByte (b : UInt8) (rest : List UInt8) :
    unescape (utf8 (spaced (encodeByte b)) ++ rest) = b :: unescape rest := by
  rcases utf8_spaced_encodeByte b with ⟨h, hb⟩ | h
  · rw [h]
    exact unescape_cons hb rest
  · have hhigh : b.toNat / 16 < 16 := Nat.div_lt_of_lt_mul b.toNat_lt
    have hlow : b.toNat % 16 < 16 := Nat.mod_lt _ (by decide)
    rw [h, List.cons_append, List.cons_append, List.cons_append, List.nil_append,
      unescape_percent (hexValue?_hexByte hhigh) (hexValue?_hexByte hlow), Nat.div_add_mod,
      UInt8.ofNat_toNat]

theorem unescape_flatMap_encodeByte (bytes : List UInt8) :
    unescape (utf8 (spaced (bytes.flatMap encodeByte))) = bytes := by
  induction bytes with
  | nil => rfl
  | cons b bytes ih =>
    rw [List.flatMap_cons, spaced, List.map_append, utf8_append, ← spaced, ← spaced,
      unescape_encodeByte, ih]

theorem decodeText_encodeText (s : String) : decodeText (encodeText s) = s := by
  rw [decodeText, encodeText, unescape_flatMap_encodeByte, lossy_utf8, String.ofList_toList]

theorem not_isSign_of_mem_encodeText {s : String} {c : Char} (hc : c ∈ encodeText s) :
    ¬ isSign c := by
  obtain ⟨b, -, hb⟩ := List.mem_flatMap.mp hc
  exact not_isSign_of_mem_encodeByte hb

theorem decodePair_encodePair (p : String × String) : decodePair (encodePair p) = p := by
  have hname : ∀ c ∈ encodeText p.1, decide (c ≠ '=') = true := by
    intro c hc
    have h := not_isSign_of_mem_encodeText hc
    simp only [isSign, Bool.or_eq_true, decide_eq_true_eq, not_or] at h
    exact decide_eq_true h.2
  rw [decodePair, encodePair, List.takeWhile_append_of_pos hname,
    List.dropWhile_append_of_pos hname]
  simp [decodeText_encodeText]

theorem decode_append_cons (cs ds : List Char) :
    decode (cs ++ '&' :: ds) = decode cs ++ decode ds := by
  have h : pieces (· = '&') (cs ++ '&' :: ds) = pieces (· = '&') cs ++ pieces (· = '&') ds :=
    pieces_append_cons rfl cs ds
  rw [decode, h, List.filter_append, List.map_append]
  rfl

theorem decode_encodePair (p : String × String) : decode (encodePair p) = [p] := by
  have hpieces : pieces (· = '&') (encodePair p) = [encodePair p] := by
    apply pieces_of_forall_not
    intro c hc
    rw [encodePair, List.mem_append, List.mem_cons] at hc
    rcases hc with hc | rfl | hc
    · have h := not_isSign_of_mem_encodeText hc
      simp only [isSign, Bool.or_eq_true, not_or] at h
      exact h.1
    · decide
    · have h := not_isSign_of_mem_encodeText hc
      simp only [isSign, Bool.or_eq_true, not_or] at h
      exact h.1
  have hne : encodePair p ≠ [] := by
    simp [encodePair]
  rw [decode, hpieces]
  simp [hne, decodePair_encodePair]

theorem decode_encode (ps : List (String × String)) : decode (encode ps) = ps := by
  induction ps with
  | nil => rfl
  | cons p ps ih =>
    cases ps with
    | nil =>
      rw [encode, List.map_cons, List.map_nil, List.intercalate_singleton]
      exact decode_encodePair p
    | cons q ps =>
      have hcons : encode (p :: q :: ps) = encodePair p ++ '&' :: encode (q :: ps) := by
        simp only [encode, List.map_cons, List.intercalate_cons_cons, List.append_assoc,
          List.singleton_append]
      rw [hcons, decode_append_cons, decode_encodePair, ih]
      rfl

end Form
end ControlPlane.Text
