import ControlPlane.Json.Compact
import ControlPlane.Json.Token
import ControlPlane.Proofs.Text.Utf8

/-! Lexemes are read from the text that they are written as, whatever follows it. -/
namespace ControlPlane.Json
open Text (utf8 utf8_append)

namespace Token

/-- A string of which well-formed bytes are read. -/
def Literal.read (bytes : List UInt8) : Literal := ⟨bytes.reverse, none, true⟩

theorem Literal.push_read (bytes more : List UInt8) :
    (read bytes).push more = read (bytes ++ more) := by
  simp [push, read]

theorem string?_simpleEscape {t : Literal} {e b : UInt8} (he : e ≠ 0x75)
    (h : simpleEscape? e = some b) (rest : List UInt8) :
    string? t (0x5C :: e :: rest) = string? (t.push [b]) rest := by
  rw [string?.eq_def]
  simp [h, he]

theorem string?_unit {t : Literal} {digits : List UInt8} {u : Nat} (h : unit? digits = some u)
    (rest : List UInt8) :
    string? t (0x5C :: 0x75 :: digits ++ rest) = string? (t.pushUnit u) rest := by
  have hdigits := h
  unfold unit? at hdigits
  split at hdigits
  · rw [string?.eq_def]
    simp [h]
  · contradiction

theorem string?_self {t : Literal} {b : UInt8} (h : b ≠ 0x22 ∧ b ≠ 0x5C ∧ ¬ b < 0x20)
    (rest : List UInt8) : string? t (b :: rest) = string? (t.push [b]) rest := by
  rw [string?.eq_def]
  simp [h]

theorem string?_append (bytes : List UInt8) {more : List UInt8}
    (h : ∀ b ∈ more, b ≠ 0x22 ∧ b ≠ 0x5C ∧ ¬ b < 0x20) (rest : List UInt8) :
    string? (.read bytes) (more ++ rest) = string? (.read (bytes ++ more)) rest := by
  induction more generalizing bytes with
  | nil => simp
  | cons b more ih =>
    rw [List.forall_mem_cons] at h
    rw [List.cons_append, string?_self h.1, Literal.push_read, ih _ h.2, List.append_assoc]
    rfl

set_option maxRecDepth 4000 in
theorem unit?_control : ∀ n < 0x20,
    unit? (utf8 ['0', '0', (Text.hexDigit (n / 16)).toLower, (Text.hexDigit (n % 16)).toLower]) =
      some n := by
  decide

theorem pushUnit_control (bytes : List UInt8) {c : Char} (h : c.toNat < 0x20) :
    (Literal.read bytes).pushUnit c.toNat = .read (bytes ++ String.utf8EncodeChar c) := by
  have hlow : isLowSurrogate c.toNat = false := by
    simp only [isLowSurrogate, Bool.and_eq_false_imp, decide_eq_true_eq, decide_eq_false_iff_not]
    omega
  have hhigh : isHighSurrogate c.toNat = false := by
    simp only [isHighSurrogate, Bool.and_eq_false_imp, decide_eq_true_eq, decide_eq_false_iff_not]
    omega
  have hpush : (Literal.read bytes).pushUnit c.toNat = (Literal.read bytes).pushCode c.toNat := by
    simp only [Literal.pushUnit, Literal.read, hhigh, hlow]
    rfl
  rw [hpush, Literal.pushCode, Literal.push_read, Char.ofNat_toNat]

/-- A character is read back, whether it is escaped or not. -/
theorem string?_escapeChar (bytes : List UInt8) (c : Char) (rest : List UInt8) :
    string? (.read bytes) (utf8 (escapeChar c) ++ rest) =
      string? (.read (bytes ++ String.utf8EncodeChar c)) rest := by
  have hsimple {e : UInt8} {b : UInt8} (he : e ≠ 0x75) (h : simpleEscape? e = some b) :
      string? (.read bytes) (0x5C :: e :: rest) = string? (.read (bytes ++ [b])) rest := by
    rw [string?_simpleEscape he h, Literal.push_read]
  unfold escapeChar
  split
  · exact hsimple (by decide) rfl
  · exact hsimple (by decide) rfl
  · exact hsimple (by decide) rfl
  · exact hsimple (by decide) rfl
  · exact hsimple (by decide) rfl
  · exact hsimple (by decide) rfl
  · exact hsimple (by decide) rfl
  · next hquote hbackslash _ _ _ _ _ =>
    split_ifs with hcontrol
    · rw [← pushUnit_control bytes hcontrol]
      exact string?_unit (unit?_control c.toNat hcontrol) rest
    · have hself (b : UInt8) (hb : b ∈ String.utf8EncodeChar c) :
          b ≠ 0x22 ∧ b ≠ 0x5C ∧ ¬ b < 0x20 := by
        have hc : c.toNat ≠ 0x22 ∧ c.toNat ≠ 0x5C :=
          ⟨fun h => hquote (Char.toNat_inj.mp h), fun h => hbackslash (Char.toNat_inj.mp h)⟩
        simp only [ne_eq, ← UInt8.toNat_inj, UInt8.lt_iff_toNat_lt, UInt8.reduceToNat]
        rcases Text.toNat_of_mem_utf8EncodeChar hb with h | h <;> omega
      rw [utf8, List.flatMap_singleton]
      exact string?_append bytes hself rest

/-- The text of a string is read up to its closing quote. -/
theorem string?_escaped (bytes : List UInt8) (cs : List Char) (rest : List UInt8) :
    string? (.read bytes) (utf8 (cs.flatMap escapeChar) ++ 0x22 :: rest) =
      some (Text.strict? (bytes ++ utf8 cs), rest) := by
  induction cs generalizing bytes with
  | nil =>
    rw [List.flatMap_nil, string?.eq_def]
    simp [Literal.finish, Literal.read, utf8]
  | cons c cs ih =>
    rw [List.flatMap_cons, utf8_append, List.append_assoc, string?_escapeChar, ih,
      List.append_assoc]
    rfl

/-- A lexeme, by the bytes that it is read from. -/
def Spells (token : Token) (b : UInt8) (more : List UInt8) : Prop :=
  ¬ isSpace b ∧ ∀ rest, next? b (more ++ rest) = some (token, rest)

theorem spells_str (s : String) :
    ∃ more, utf8 (quoted s) = 0x22 :: more ∧ Spells (.str (some s)) 0x22 more := by
  refine ⟨utf8 (s.toList.flatMap escapeChar) ++ [0x22], ?_, by decide, fun rest => ?_⟩
  · rw [quoted, utf8_append]
    rfl
  · have hread : string? {} (utf8 (s.toList.flatMap escapeChar) ++ 0x22 :: rest) =
        some (some s, rest) := by
      have h := string?_escaped [] s.toList rest
      rwa [List.nil_append, Text.strict?_utf8, String.ofList_toList] at h
    rw [List.append_assoc, List.singleton_append]
    simp [next?, hread]

/-- Lexemes, by the bytes of all of them. -/
inductive Spelled : List Token → List UInt8 → Prop
  | nil : Spelled [] []
  | cons {token : Token} {b : UInt8} {more bytes : List UInt8} {tokens : List Token}
    (h : token.Spells b more) (hs : Spelled tokens bytes) :
    Spelled (token :: tokens) (b :: more ++ bytes)

namespace Spelled

theorem append {ts us : List Token} {bytes more : List UInt8} (h : Spelled ts bytes)
    (h' : Spelled us more) : Spelled (ts ++ us) (bytes ++ more) := by
  induction h with
  | nil => exact h'
  | cons h _ ih =>
    rw [List.append_assoc]
    exact .cons h ih

theorem sign {token : Token} {c : Char} {b : UInt8} (hc : utf8 [c] = [b])
    (h : token.Spells b []) {ts : List Token} {cs : List Char} (hs : Spelled ts (utf8 cs)) :
    Spelled (token :: ts) (utf8 (c :: cs)) := by
  have hcons : utf8 (c :: cs) = utf8 [c] ++ utf8 cs := utf8_append [c] cs
  rw [hcons, hc]
  exact .cons h hs

theorem word {token : Token} {cs : List Char} {b : UInt8} {more : List UInt8}
    (hcs : utf8 cs = b :: more) (h : token.Spells b more) : Spelled [token] (utf8 cs) := by
  rw [hcs, ← List.append_nil (b :: more)]
  exact .cons h .nil

theorem scanFrom_eq {ts : List Token} {bytes : List UInt8} (h : Spelled ts bytes)
    (found : List Token) {fuel : Nat} (hfuel : bytes.length ≤ fuel) :
    scanFrom fuel found bytes = some (found.reverse ++ ts) := by
  induction h generalizing found fuel with
  | nil =>
    unfold scanFrom
    simp
  | @cons token b more bytes tokens h _ ih =>
    simp only [List.cons_append, List.length_cons, List.length_append] at hfuel
    obtain ⟨fuel, rfl⟩ : ∃ n, fuel = n + 1 := ⟨fuel - 1, by omega⟩
    have hdrop : (b :: more ++ bytes).dropWhile isSpace = b :: (more ++ bytes) := by
      rw [List.cons_append, List.dropWhile_cons_of_neg h.1]
    unfold scanFrom
    simp only [hdrop, h.2]
    rw [ih (token :: found) (by omega)]
    simp

theorem scan?_eq {ts : List Token} {bytes : List UInt8} (h : Spelled ts bytes) :
    scan? bytes = some ts :=
  h.scanFrom_eq [] (Nat.le_refl _)

end Spelled
end Token

end ControlPlane.Json
