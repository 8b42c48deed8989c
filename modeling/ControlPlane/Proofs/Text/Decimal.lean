import ControlPlane.Text.Decimal
import Mathlib

/-!
The decimal text of a number is the one that the standard library writes. It is read as the number
again, over the whole range of 64 bits with a sign.
-/
namespace ControlPlane.Text.Decimal

theorem digit_eq_digitChar {d : Nat} (h : d < 10) : digit d = d.digitChar := by
  have hall : ∀ d < 10, digit d = d.digitChar := by decide
  exact hall d h

theorem ofNat_eq_toDigits (n : Nat) : ofNat n = Nat.toDigits 10 n := by
  induction n using Nat.strongRecOn with
  | ind n ih =>
    rw [ofNat, reversedDigits, Nat.toDigits_eq_if (by decide)]
    split_ifs with h
    · rw [List.reverse_singleton, digit_eq_digitChar h]
    · have hrest : (reversedDigits (n / 10)).reverse = Nat.toDigits 10 (n / 10) :=
        ih (n / 10) (by omega)
      rw [List.reverse_cons, digit_eq_digitChar (Nat.mod_lt n (by decide)), hrest]

theorem ofList_ofNat (n : Nat) : String.ofList (ofNat n) = toString n := by
  rw [ofNat_eq_toDigits, Nat.toString_eq_ofList_toDigits]

theorem isDigit_of_mem_ofNat {n : Nat} {c : Char} (h : c ∈ ofNat n) : isDigit c = true := by
  rw [ofNat_eq_toDigits] at h
  have hdigit : c.isDigit = true := Nat.isDigit_of_mem_toDigits (by decide) (by decide) h
  simpa [Char.isDigit, isDigit, Char.le_def] using hdigit

theorem toNat?_ofNat (n : Nat) : toNat? (ofNat n) = some n := by
  have hne : ofNat n ≠ [] := by
    rw [ofNat_eq_toDigits]
    exact Nat.toDigits_ne_nil
  have hall : (ofNat n).all isDigit := List.all_eq_true.mpr fun _ => isDigit_of_mem_ofNat
  have hvalue : value (ofNat n) = n := by
    rw [ofNat_eq_toDigits]
    exact Nat.ofDigitChars_ten_toDigits
  rw [toNat?, if_pos ⟨hne, hall⟩, hvalue]

/-- Digits do not begin with a sign. -/
theorem toInt?_ofNat (n : Nat) : toInt? (ofNat n) = some (n : Int) := by
  unfold toInt?
  split
  case h_1 h => exact absurd (isDigit_of_mem_ofNat (by rw [h]; exact .head _)) (by decide)
  case h_2 h => exact absurd (isDigit_of_mem_ofNat (by rw [h]; exact .head _)) (by decide)
  case h_3 =>
    rw [toNat?_ofNat]
    rfl

theorem toInt?_ofInt (n : Int) : toInt? (ofInt n) = some n := by
  cases n with
  | ofNat n => exact toInt?_ofNat n
  | negSucc n =>
    have hdigits : toInt? (ofInt (.negSucc n)) = (toNat? (ofNat (n + 1))).map fun n => -(n : Int) :=
      rfl
    rw [hdigits, toNat?_ofNat]
    rfl

theorem toInt64?_toInt (n : Int64) : toInt64? n.toInt = some n := by
  rw [toInt64?, if_pos ⟨n.minValue_le_toInt, n.toInt_le⟩, Int64.ofInt_toInt]

theorem parse?_render (n : Int64) : parse? (render n) = some n := by
  rw [parse?, render, String.toList_ofList, toInt?_ofInt, Option.bind_some, toInt64?_toInt]

end ControlPlane.Text.Decimal
