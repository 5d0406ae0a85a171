/-
The order of the texts of dates and moments. Texts are compared character by character, and a
text that ends comes before one that goes on. Each number in the text of a date or a moment is
padded to one width, so that the numbers are compared one after another, the largest unit first.
A fraction is left out only if it is zero, and then the text ends where another one goes on.
-/
import Relvar.Proofs.Calendar.Count

set_option autoImplicit false

namespace Relvar

/-! ## Numbers of one width -/

/-- Texts whose fronts have one length are compared by the fronts first. -/
theorem append_lt_append_iff {a b : List Char} (h : a.length = b.length) (s t : List Char) :
    a ++ s < b ++ t ↔ a < b ∨ a = b ∧ s < t := by
  induction a generalizing b with
  | nil =>
    rw [List.length_nil, eq_comm, List.length_eq_zero_iff] at h
    subst h
    simp
  | cons c a ih =>
    -- the fronts are shortened together
    cases b with
    | nil => simp at h
    | cons d b =>
      rw [List.length_cons, List.length_cons, Nat.add_right_cancel_iff] at h
      rw [List.cons_append, List.cons_append, List.cons_lt_cons_iff, List.cons_lt_cons_iff, ih h,
        List.cons.injEq, and_or_left, or_assoc, and_assoc]

namespace Decimal

/-- Numerals of one length are compared as the numbers that they stand for, behind numerals that
are compared first. -/
theorem ofDigitChars_lt_iff {s t : List Char} (hs : ∀ c ∈ s, c.isDigit = true)
    (ht : ∀ c ∈ t, c.isDigit = true) (h : s.length = t.length) (m n : Nat) :
    Nat.ofDigitChars 10 s m < Nat.ofDigitChars 10 t n ↔ m < n ∨ m = n ∧ s < t := by
  induction s generalizing t m n with
  | nil =>
    rw [List.length_nil, eq_comm, List.length_eq_zero_iff] at h
    subst h
    simp
  | cons c s ih =>
    cases t with
    | nil => simp at h
    | cons d t =>
      rw [List.length_cons, List.length_cons, Nat.add_right_cancel_iff] at h
      obtain ⟨hc, hs⟩ := List.forall_mem_cons.mp hs
      obtain ⟨hd, ht⟩ := List.forall_mem_cons.mp ht
      rw [Nat.ofDigitChars_cons, Nat.ofDigitChars_cons, ih hs ht h, List.cons_lt_cons_iff]
      -- the digits are below ten, so they only count if the numbers in front of them are equal
      have hlt : c < d ↔ c.toNat < d.toNat := Iff.rfl
      have heq : c = d ↔ c.toNat = d.toNat := Char.toNat_inj.symm
      have hbounds : ∀ x : Char, x.isDigit = true → 48 ≤ x.toNat ∧ x.toNat ≤ 57 :=
        fun x => Char.isDigit_iff_toNat.mp
      have hc' := hbounds c hc
      have hd' := hbounds d hd
      have hzero : '0'.toNat = 48 := rfl
      rw [hlt, heq, hzero]
      by_cases hrest : s < t
      · simp only [hrest, and_true]
        omega
      · simp only [hrest, and_false, or_false]
        omega

/-- Numbers padded to one width that they do not exceed are compared as texts. -/
theorem padded_lt_iff {width m n : Nat} (hwidth : 0 < width) (hm : m < Nat.pow 10 width)
    (hn : n < Nat.pow 10 width) : (padded width m).toList < (padded width n).toList ↔ m < n := by
  have hlength := (length_padded hwidth hm).trans (length_padded hwidth hn).symm
  have hvalue : ∀ k, Nat.ofDigitChars 10 (padded width k).toList 0 = k := by
    intro k
    rw [← foldl_decimalValue 0 fun _ => isDigit_of_mem_padded]
    exact valueOfDigits_padded width k
  have hdigits := ofDigitChars_lt_iff (fun _ => isDigit_of_mem_padded)
    (fun _ => isDigit_of_mem_padded) hlength 0 0
  rw [hvalue, hvalue] at hdigits
  simpa using hdigits.symm

theorem padded_inj {width m n : Nat} :
    (padded width m).toList = (padded width n).toList ↔ m = n := by
  constructor
  · intro h
    rw [← valueOfDigits_padded width m, h, valueOfDigits_padded]
  · rintro rfl
    rfl

end Decimal

/-! ## Dates -/

namespace Date

open Decimal (padded padded_lt_iff padded_inj length_padded)

variable {d e : Date}

theorem iso_inj (hd : d.Valid) (he : e.Valid) : d.iso = e.iso ↔ d = e := by
  constructor
  · intro h
    have hread := ofIso?_iso hd
    rw [h, ofIso?_iso he] at hread
    exact (Option.some.inj hread).symm
  · rintro rfl
    rfl

/-- A part of two texts that is padded to one width, in front of the rest. -/
theorem padded_append_lt_iff {width m n : Nat} (hwidth : 0 < width) (hm : m < Nat.pow 10 width)
    (hn : n < Nat.pow 10 width) (s t : List Char) :
    (padded width m).toList ++ s < (padded width n).toList ++ t ↔ m < n ∨ m = n ∧ s < t := by
  have hlength := (length_padded hwidth hm).trans (length_padded hwidth hn).symm
  rw [append_lt_append_iff hlength, padded_lt_iff hwidth hm hn, padded_inj]

theorem cons_lt_cons_same (c : Char) (s t : List Char) : c :: s < c :: t ↔ s < t := by
  rw [List.cons_lt_cons_iff]
  simp

theorem toList_iso_lt_iff (hd : d.Valid) (he : e.Valid) :
    d.iso.toList < e.iso.toList ↔ d.Before e := by
  obtain ⟨hyear, hmonth, hday⟩ := hd.narrow
  obtain ⟨hyear', hmonth', hday'⟩ := he.narrow
  rw [toList_iso, toList_iso, padded_append_lt_iff (by decide) hyear hyear', cons_lt_cons_same,
    padded_append_lt_iff (by decide) hmonth hmonth', cons_lt_cons_same,
    padded_lt_iff (by decide) hday hday', Before]

/-- **Dates are ordered as their texts.** -/
theorem iso_lt_iff (hd : d.Valid) (he : e.Valid) : d.iso < e.iso ↔ d.number < e.number := by
  rw [String.lt_iff, toList_iso_lt_iff hd he, number_lt_iff hd he]

end Date

/-! ## Moments -/

namespace Moment

open Date (padded_append_lt_iff cons_lt_cons_same)

variable {a b : Moment}

/-- A fraction that is left out comes before one that is not, and stands for the smaller one. -/
theorem fractionText_lt_iff {m n : Nat} (hm : m < 1000000) (hn : n < 1000000) :
    (fractionText m).toList < (fractionText n).toList ↔ m < n := by
  have hpart : ∀ k, k ≠ 0 → (fractionText k).toList = '.' :: (Decimal.padded 6 k).toList := by
    intro k hk
    simp [fractionText, hk]
  have hnone : (fractionText 0).toList = [] := rfl
  -- a fraction of nothing is not written, so it is apart from the others
  by_cases hm₀ : m = 0
  · by_cases hn₀ : n = 0
    · rw [hm₀, hn₀]
      simp
    · rw [hm₀, hnone, hpart n hn₀]
      simp [Nat.pos_of_ne_zero hn₀]
  · by_cases hn₀ : n = 0
    · rw [hn₀, hnone, hpart m hm₀]
      simp
    · rw [hpart m hm₀, hpart n hn₀, cons_lt_cons_same,
        Decimal.padded_lt_iff (by decide) hm hn]

/-- The text of a moment without an offset, part after part. -/
theorem toList_iso_naive (ha : a.offset = none) : a.iso.toList = a.date.iso.toList ++ 'T' ::
    ((Decimal.padded 2 a.hour).toList ++ ':' :: ((Decimal.padded 2 a.minute).toList ++ ':' ::
      ((Decimal.padded 2 a.second).toList ++ (fractionText a.microsecond).toList))) := by
  rw [toList_iso, toList_clock, ha, offsetText, String.toList_empty, List.append_nil]
  simp only [List.append_assoc, List.cons_append]

/-- **Moments without an offset are ordered as their texts.** -/
theorem iso_lt_iff (ha : a.Valid) (hb : b.Valid) (ha' : a.offset = none) (hb' : b.offset = none) :
    a.iso < b.iso ↔ a.clockMicroseconds < b.clockMicroseconds := by
  have hdates : a.date.iso.toList.length = b.date.iso.toList.length := by
    rw [String.length_toList, String.length_toList, Date.length_iso ha.date,
      Date.length_iso hb.date]
  have hsame : a.date.iso.toList = b.date.iso.toList ↔ a.date.number = b.date.number := by
    rw [String.toList_inj, Date.iso_inj ha.date hb.date, Date.number_inj ha.date hb.date]
  have hdays := Date.iso_lt_iff ha.date hb.date
  rw [String.lt_iff] at hdays ⊢
  obtain ⟨-, hhour, hminute, hsecond, hmicrosecond, -⟩ := ha
  obtain ⟨-, hhour', hminute', hsecond', hmicrosecond', -⟩ := hb
  have htwo : Nat.pow 10 2 = 100 := rfl
  rw [toList_iso_naive ha', toList_iso_naive hb', append_lt_append_iff hdates, hdays, hsame,
    cons_lt_cons_same,
    padded_append_lt_iff (by decide) (by omega) (by omega), cons_lt_cons_same,
    padded_append_lt_iff (by decide) (by omega) (by omega), cons_lt_cons_same,
    padded_append_lt_iff (by decide) (by omega) (by omega),
    fractionText_lt_iff hmicrosecond hmicrosecond', clockMicroseconds, clockMicroseconds]
  omega

theorem iso_inj (ha : a.Valid) (hb : b.Valid) : a.iso = b.iso ↔ a = b := by
  constructor
  · intro h
    have hread := ofIso?_iso ha
    rw [h, ofIso?_iso hb] at hread
    exact (Option.some.inj hread).symm
  · rintro rfl
    rfl

end Moment

end Relvar
