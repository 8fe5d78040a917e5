import QueryFence.Text.Digit
import Mathlib.Algebra.Group.Nat.Defs

/-!
Numbers written in digits: what is written is read back, and how many digits it takes.
-/

namespace QueryFence.Text

theorem isDigit_of_mem_ofNat {n : Nat} {c : Char} (h : c ∈ ofNat n) : c.isDigit = true :=
  Nat.isDigit_of_mem_toDigits (by decide) (by decide) h

theorem ne_of_isDigit {c d : Char} (hc : c.isDigit = true) (hd : d.isDigit = false) : c ≠ d := by
  rintro rfl
  rw [hc] at hd
  exact Bool.noConfusion hd

/-- A number is written with at least one digit. -/
theorem ofNat_eq_cons (n : Nat) : ∃ c more, ofNat n = c :: more ∧ c.isDigit = true := by
  cases hd : ofNat n with
  | nil => exact absurd hd Nat.toDigits_ne_nil
  | cons c more => exact ⟨c, more, rfl, isDigit_of_mem_ofNat (hd ▸ List.mem_cons_self)⟩

/-- Only zero is written with a leading zero. -/
theorem ofNat_eq_cons_of_pos {n : Nat} (h : 0 < n) : ∃ c more, ofNat n = c :: more ∧ c ≠ '0' := by
  induction n using Nat.strongRecOn with
  | ind n ih =>
    by_cases hn : n < 10
    · refine ⟨n.digitChar, [], Nat.toDigits_of_lt_base hn, ?_⟩
      have hall : ∀ d < 10, 0 < d → d.digitChar ≠ '0' := by decide
      exact hall n hn h
    · obtain ⟨c, more, heq, hc⟩ := ih (n / 10) (by omega) (by omega)
      refine ⟨c, more ++ [(n % 10).digitChar], ?_, hc⟩
      rw [ofNat, Nat.toDigits_of_base_le (by decide) (by omega), ← ofNat, heq]
      rfl

theorem isNumeral_iff {t : Text} : isNumeral t = true ↔ t ≠ [] ∧ ∀ c ∈ t, c.isDigit = true := by
  rw [isNumeral, Bool.and_eq_true, Bool.not_eq_true', List.isEmpty_eq_false_iff, List.all_eq_true]

theorem isNumeral_ofNat (n : Nat) : isNumeral (ofNat n) = true :=
  isNumeral_iff.2 ⟨Nat.toDigits_ne_nil, fun _ hc => isDigit_of_mem_ofNat hc⟩

theorem numeralValue_ofNat (n : Nat) : numeralValue (ofNat n) = n :=
  Nat.ofDigitChars_ten_toDigits

theorem ofDigitChars_lt {t : Text} (h : ∀ c ∈ t, c.isDigit = true) :
    Nat.ofDigitChars 10 t 0 < 10 ^ t.length := by
  induction t with
  | nil => decide
  | cons c t ih =>
    have hc : c.toNat - '0'.toNat ≤ 9 := by
      have hd := Char.isDigit_iff_toNat.1 (h c List.mem_cons_self)
      have h9 : '9'.toNat = '0'.toNat + 9 := rfl
      omega
    have ht := ih fun d hd => h d (List.mem_cons_of_mem c hd)
    have hm : (10 : Nat) ^ t.length * (c.toNat - '0'.toNat) ≤ 10 ^ t.length * 9 :=
      Nat.mul_le_mul_left _ hc
    rw [Nat.ofDigitChars_cons, Nat.ofDigitChars_eq_ofDigitChars_zero, List.length_cons,
      Nat.pow_succ, Nat.mul_zero, Nat.zero_add]
    omega

/-- A number takes no more digits than any numeral that it was read from. -/
theorem length_ofNat_numeralValue {t : Text} (h : isNumeral t = true) :
    (ofNat (numeralValue t)).length ≤ t.length := by
  obtain ⟨hne, hdigits⟩ := isNumeral_iff.1 h
  rw [ofNat, Nat.length_toDigits_le_iff (by decide) (List.length_pos_iff.2 hne)]
  exact ofDigitChars_lt hdigits

theorem isDigit_of_mem_padded {width n : Nat} {c : Char} (h : c ∈ padded width n) :
    c.isDigit = true := by
  rcases List.mem_append.1 h with h | h
  · rw [List.eq_of_mem_replicate h]
    rfl
  · exact isDigit_of_mem_ofNat h

theorem length_padded {width n : Nat} (hw : 0 < width) (h : n < 10 ^ width) :
    (padded width n).length = width := by
  have hl : (ofNat n).length ≤ width := (Nat.length_toDigits_le_iff (by decide) hw).2 h
  rw [padded, List.length_append, List.length_replicate]
  omega

/-- Zeros in front of a numeral change nothing. -/
theorem numeralValue_zeros_append (k : Nat) (t : Text) :
    numeralValue (List.replicate k '0' ++ t) = numeralValue t := by
  rw [numeralValue, Nat.ofDigitChars_append, Nat.ofDigitChars_replicate_zero, Nat.mul_zero]
  rfl

/-- A zero at the end of a numeral is a factor of ten. -/
theorem numeralValue_append_zeros (t : Text) (k : Nat) :
    numeralValue (t ++ List.replicate k '0') = numeralValue t * 10 ^ k := by
  rw [numeralValue, Nat.ofDigitChars_append, Nat.ofDigitChars_replicate_zero, Nat.mul_comm]
  rfl

theorem ofDigitChars_padded (width n : Nat) : Nat.ofDigitChars 10 (padded width n) 0 = n := by
  rw [padded, Nat.ofDigitChars_append, Nat.ofDigitChars_replicate_zero, Nat.mul_zero]
  exact Nat.ofDigitChars_ten_toDigits

end QueryFence.Text
