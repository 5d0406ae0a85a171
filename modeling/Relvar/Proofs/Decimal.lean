/-
The decimal digits of a number. They are ASCII digits, they are read back as the
number, and only a number that is too large to have few enough of them is refused.
-/
import Relvar.Decimal.Numeral

set_option autoImplicit false

namespace Relvar.Decimal

theorem digits_ne_nil (n : Nat) : digits n ≠ [] := Nat.toDigits_ne_nil

theorem isDigit_of_mem_digits {n : Nat} {c : Char} (h : c ∈ digits n) : c.isDigit = true :=
  Nat.isDigit_of_mem_toDigits (by decide) (by decide) h

theorem decimalValue_of_isDigit {c : Char} (h : c.isDigit = true) :
    Text.decimalValue? c = some (c.toNat - '0'.toNat) := by
  have hrange : (decide (0x30 ≤ c.toNat) && decide (c.toNat < 0x30 + 10)) = true := by
    simp only [Char.isDigit, Bool.and_eq_true, decide_eq_true_eq, ge_iff_le,
      UInt32.le_iff_toNat_le] at h
    have h₁ : 48 ≤ c.toNat := h.1
    have h₂ : c.toNat ≤ 57 := h.2
    simp
    omega
  -- the ASCII digits are the first in the table
  obtain ⟨zeros, hzeros⟩ : ∃ zeros, Text.decimalZeros = 0x30 :: zeros := ⟨_, rfl⟩
  rw [Text.decimalValue?, hzeros,
    List.find?_cons_of_pos (p := fun z => z ≤ c.toNat && c.toNat < z + 10) hrange]
  rfl

theorem isDecimal_of_isDigit {c : Char} (h : c.isDigit = true) : Text.isDecimal c = true := by
  rw [Text.isDecimal, decimalValue_of_isDigit h]
  rfl

/-- On ASCII digits a numeral is read as the library reads one. -/
theorem foldl_decimalValue {s : List Char} (m : Nat) (hs : ∀ c ∈ s, c.isDigit = true) :
    s.foldl (fun n c => 10 * n + (Text.decimalValue? c).getD 0) m = Nat.ofDigitChars 10 s m := by
  induction s generalizing m with
  | nil => simp
  | cons c s ih =>
    obtain ⟨hc, hs⟩ := List.forall_mem_cons.mp hs
    rw [List.foldl_cons, ih _ hs, decimalValue_of_isDigit hc, Nat.ofDigitChars_cons]
    rfl

/-- The digits of a number stand for it. -/
theorem valueOfDigits_digits (n : Nat) : valueOfDigits (digits n) = n := by
  rw [valueOfDigits, foldl_decimalValue 0 fun c => isDigit_of_mem_digits]
  exact Nat.ofDigitChars_ten_toDigits

theorem length_digits_le_iff {k : Nat} (hk : 0 < k) (n : Nat) :
    (digits n).length ≤ k ↔ n < Nat.pow 10 k :=
  Nat.length_toDigits_le_iff (by decide) hk

/-- The first number that has more digits than a numeral may have. -/
@[irreducible]
def firstTooLong : Nat := Nat.pow 10 digitLimit

theorem firstTooLong_pos : 0 < firstTooLong := by
  have hpos : ∀ k, 0 < Nat.pow 10 k := fun k => Nat.pow_pos (by decide)
  unfold firstTooLong
  exact hpos digitLimit

/-- The digits of a number are read back, unless they are too many. -/
theorem readDigits_digits (n : Nat) :
    readDigits (digits n) =
      if firstTooLong ≤ n then .error (.tooLong (digits n).length) else .ok n := by
  have hlength : (digits n).length > digitLimit ↔ firstTooLong ≤ n := by
    have hpos : 0 < digitLimit := by decide
    have hle : (digits n).length ≤ digitLimit ↔ n < firstTooLong := by
      unfold firstTooLong
      exact length_digits_le_iff hpos n
    rw [gt_iff_lt, ← Nat.not_le, hle, Nat.not_lt]
  rw [readDigits, valueOfDigits_digits]
  simp only [hlength]

/-! ## Padded digits -/

theorem toList_padded (width n : Nat) :
    (padded width n).toList = List.replicate (width - (digits n).length) '0' ++ digits n :=
  String.toList_ofList

theorem isDigit_of_mem_padded {width n : Nat} {c : Char} (h : c ∈ (padded width n).toList) :
    c.isDigit = true := by
  rw [toList_padded] at h
  rcases List.mem_append.mp h with h | h
  · rw [List.eq_of_mem_replicate h]
    rfl
  · exact isDigit_of_mem_digits h

/-- Zeros in front of a numeral add nothing. -/
theorem valueOfDigits_zeros (k : Nat) (s : List Char) :
    valueOfDigits (List.replicate k '0' ++ s) = valueOfDigits s := by
  induction k with
  | zero => rfl
  | succ k ih =>
    have hzero : 10 * 0 + (Text.decimalValue? '0').getD 0 = 0 := by
      rw [decimalValue_of_isDigit rfl]
      rfl
    rw [List.replicate_succ, List.cons_append, valueOfDigits, List.foldl_cons, hzero]
    exact ih

theorem valueOfDigits_padded (width n : Nat) : valueOfDigits (padded width n).toList = n := by
  rw [toList_padded, valueOfDigits_zeros, valueOfDigits_digits]

/-- A number that has no more digits than the width fills it. -/
theorem length_padded {width n : Nat} (hwidth : 0 < width) (hn : n < Nat.pow 10 width) :
    (padded width n).toList.length = width := by
  have hle : (digits n).length ≤ width := (length_digits_le_iff hwidth n).mpr hn
  rw [toList_padded, List.length_append, List.length_replicate]
  omega

end Relvar.Decimal
