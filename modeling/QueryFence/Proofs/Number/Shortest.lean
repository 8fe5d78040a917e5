import QueryFence.Proofs.Number.Rounding
import Mathlib.Algebra.Order.Floor.Semifield
import Mathlib.Data.Rat.Floor

/-!
The shortest decimal of a floating-point number lies in its rounding range, so that it is read as this
number: among the decimals with 18 digits there always is one.
-/

namespace QueryFence.Binary64

/-- The rational that a decimal stands for. -/
def Decimal.worth (d : Decimal) : ℚ := d.digits * 10 ^ d.exponent

variable {negative : Bool} {m : Nat} {e : Int} {r : RoundingRange} {d : Decimal}

section Search

theorem holds_iff (h : 0 < r.unit.2) : r.holds d = true ↔ r.Contains d.worth := by
  have hunit : (0 : ℚ) < r.unit.2 := by exact_mod_cast h
  have hden : (0 : ℚ) < (tenfold d.digits d.exponent).2 := by
    exact_mod_cast tenfold_den_pos d.digits d.exponent
  have hworth := tenfold_eq d.digits d.exponent
  have hle : ∀ n : Nat, n * r.unit.1 * (tenfold d.digits d.exponent).2 ≤
      (tenfold d.digits d.exponent).1 * r.unit.2 ↔ (n : ℚ) * (r.unit.1 / r.unit.2) ≤ d.worth := by
    intro n
    rw [Decimal.worth, ← hworth, ← mul_div_assoc, div_le_div_iff₀ hunit hden]
    exact_mod_cast Iff.rfl
  have hge : ∀ n : Nat, (tenfold d.digits d.exponent).1 * r.unit.2 ≤
      n * r.unit.1 * (tenfold d.digits d.exponent).2 ↔ d.worth ≤ (n : ℚ) * (r.unit.1 / r.unit.2) := by
    intro n
    rw [Decimal.worth, ← hworth, ← mul_div_assoc, div_le_div_iff₀ hden hunit]
    exact_mod_cast Iff.rfl
  simp only [RoundingRange.holds, RoundingRange.Contains]
  split
  · simp only [Bool.and_eq_true, decide_eq_true_eq, hle, hge]
  · simp only [Bool.and_eq_true, decide_eq_true_eq, ← not_le, hle, hge]

theorem nearestAt_holds {place : Int} (h : r.nearestAt place = some d) : r.holds d = true := by
  simp only [RoundingRange.nearestAt] at h
  split at h
  · next hholds => exact Option.some.inj h ▸ hholds
  · split at h
    · next hholds => exact Option.some.inj h ▸ hholds
    · split at h
      · next hholds => exact Option.some.inj h ▸ hholds
      · cases h

/-- A search that meets a place with a decimal in the range ends with one. -/
theorem firstOf_holds {leading : Int} {places : List Nat} {n : Nat} (hn : n ∈ places)
    (h : (r.nearestAt (leading - n)).isSome) : r.holds (r.firstOf leading places) = true := by
  induction places with
  | nil => exact absurd hn List.not_mem_nil
  | cons p places ih =>
    rw [RoundingRange.firstOf]
    cases hp : r.nearestAt (leading - p) with
    | some d => exact nearestAt_holds hp
    | none =>
      refine ih ((List.mem_cons.1 hn).resolve_left ?_)
      rintro rfl
      rw [hp] at h
      cases h

/-- The decimal with a last place next below the number of a range. -/
def RoundingRange.below (r : RoundingRange) (place : Int) : Decimal where
  digits := r.value * r.unit.1 * (tenfold 1 place).2 / ((tenfold 1 place).1 * r.unit.2)
  exponent := place

theorem nearestAt_isSome_of_below {place : Int} (h : r.holds (r.below place) = true) :
    (r.nearestAt place).isSome := by
  simp only [RoundingRange.below] at h
  simp only [RoundingRange.nearestAt, h, if_true]
  split <;> rfl

theorem tenfold_one_num_pos (place : Int) : 0 < (tenfold 1 place).1 := by
  rw [tenfold]
  split
  · exact Nat.mul_pos Nat.one_pos (Nat.pow_pos (by decide))
  · exact Nat.one_pos

theorem digits_below (h : 0 < r.unit.2) (place : Int) :
    (r.below place).digits = ⌊r.value * (r.unit.1 / r.unit.2 : ℚ) / 10 ^ place⌋₊ := by
  have hten := tenfold_eq 1 place
  rw [Nat.cast_one, one_mul] at hten
  have hnum : ((tenfold 1 place).1 : ℚ) ≠ 0 := by exact_mod_cast (tenfold_one_num_pos place).ne'
  have hden : ((tenfold 1 place).2 : ℚ) ≠ 0 := by exact_mod_cast (tenfold_den_pos 1 place).ne'
  have hunit : (r.unit.2 : ℚ) ≠ 0 := by exact_mod_cast h.ne'
  rw [RoundingRange.below, ← Nat.floor_div_eq_div (K := ℚ), ← hten]
  push_cast
  field_simp

/-- Less than the worth of the last place is missing. -/
theorem worth_below (h : 0 < r.unit.2) (place : Int) :
    (r.below place).worth ≤ r.value * (r.unit.1 / r.unit.2) ∧
      r.value * (r.unit.1 / r.unit.2) < (r.below place).worth + 10 ^ place := by
  have hpos : (0 : ℚ) < 10 ^ place := by positivity
  have hexponent : (r.below place).exponent = place := rfl
  rw [Decimal.worth, digits_below h, hexponent]
  constructor
  · rw [← le_div_iff₀ hpos]
    exact Nat.floor_le (by positivity)
  · rw [← add_one_mul, ← div_lt_iff₀ hpos]
    exact Nat.lt_floor_add_one _

/-- Where the last place is worth no more than a fourth of the last binary one, a decimal lies in the
range. -/
theorem nearestAt_isSome (hm : 0 < m) {place : Int} (h : (10 : ℚ) ^ place ≤ 2 ^ e / 4) :
    ((RoundingRange.of m e).nearestAt place).isSome := by
  have hpos : (0 : ℚ) < 2 ^ e := by positivity
  have hunit : 0 < (RoundingRange.of m e).unit.2 := scaleDown_den_pos Nat.one_pos 1 (2 - e)
  have hvalue : ((RoundingRange.of m e).value : ℚ) * (2 ^ e / 4) = m * 2 ^ e := by
    rw [RoundingRange.of]
    push_cast
    ring
  obtain ⟨hle, hlt⟩ := worth_below hunit place
  rw [unit_of, hvalue] at hle hlt
  have hfourth : (1 : ℚ) / 4 ≤ reachBelow m e := by
    rw [reachBelow]
    split <;> norm_num
  have hlow : (m : ℚ) - reachBelow m e < ((RoundingRange.of m e).below place).worth / 2 ^ e := by
    rw [lt_div_iff₀ hpos, sub_mul]
    have hreach : (1 : ℚ) / 4 * 2 ^ e ≤ reachBelow m e * 2 ^ e :=
      mul_le_mul_of_nonneg_right hfourth hpos.le
    linarith
  have hhigh : ((RoundingRange.of m e).below place).worth / 2 ^ e < m + 1 / 2 := by
    rw [div_lt_iff₀ hpos, add_mul]
    linarith
  refine nearestAt_isSome_of_below ((holds_iff hunit).2 ((contains_of_iff hm).2 ?_))
  split
  · exact ⟨hlow.le, hhigh.le⟩
  · exact ⟨hlow, hhigh⟩

/-- The place that is found never is beyond the leading digit. -/
theorem leadingPlace_le {num den : Nat} (hden : 0 < den) (fuel : Nat) {k : Int}
    (h : (10 : ℚ) ^ k ≤ num / den) : (10 : ℚ) ^ leadingPlace num den fuel k ≤ num / den := by
  induction fuel generalizing k with
  | zero => exact h
  | succ fuel ih =>
    simp only [leadingPlace]
    split
    · next hle =>
      apply ih
      have hten := tenfold_eq 1 (k + 1)
      rw [Nat.cast_one, one_mul] at hten
      have hbottom : (0 : ℚ) < (tenfold 1 (k + 1)).2 := by exact_mod_cast tenfold_den_pos 1 (k + 1)
      have hpos : (0 : ℚ) < den := by exact_mod_cast hden
      rw [← hten, div_le_div_iff₀ hbottom hpos]
      exact_mod_cast hle
    · exact h

end Search

section Leading

/-- One power of `x` that is not above one of `y` puts others in the same order. -/
theorem pow_le_pow_of_le {x y p q s t : Nat} (hbase : x ^ p ≤ y ^ q) (hy : 0 < y) (hp : p ≠ 0)
    (h : q * s ≤ p * t) : x ^ s ≤ y ^ t := by
  rw [← Nat.pow_le_pow_iff_left hp]
  calc (x ^ s) ^ p = (x ^ p) ^ s := by rw [← Nat.pow_mul, ← Nat.pow_mul, Nat.mul_comm]
    _ ≤ (y ^ q) ^ s := Nat.pow_le_pow_left hbase s
    _ = y ^ (q * s) := by rw [← Nat.pow_mul]
    _ ≤ y ^ (p * t) := Nat.pow_le_pow_right hy h
    _ = (y ^ t) ^ p := by rw [Nat.mul_comm, Nat.pow_mul]

/-- The estimate of a decimal logarithm from a binary one is not too large in the range of the format:
`2 ^ 10` is just above `10 ^ 3`, and `2 ^ 93` just below `10 ^ 28`. -/
theorem ten_zpow_le {s t : Int} (h : s ≤ t * 30103 / 100000 - 2) (hlow : -40000 ≤ t)
    (hhigh : t ≤ 1900) : (10 : ℚ) ^ s ≤ 2 ^ t := by
  rcases le_total 0 t with ht | ht
  · rcases le_total s 0 with hs | hs
    · calc (10 : ℚ) ^ s ≤ 1 := zpow_le_one_of_nonpos₀ (by norm_num) hs
        _ ≤ 2 ^ t := one_le_zpow₀ (by norm_num) ht
    · obtain ⟨a, rfl⟩ := Int.eq_ofNat_of_zero_le hs
      obtain ⟨b, rfl⟩ := Int.eq_ofNat_of_zero_le ht
      have hpow : 10 ^ a ≤ 2 ^ b :=
        pow_le_pow_of_le (p := 3) (q := 10) (by norm_num) (by decide) (by decide) (by omega)
      rw [zpow_natCast, zpow_natCast]
      exact_mod_cast hpow
  · obtain ⟨a, rfl⟩ : ∃ a : Nat, t = -a := ⟨(-t).toNat, by omega⟩
    obtain ⟨b, rfl⟩ : ∃ b : Nat, s = -b := ⟨(-s).toNat, by omega⟩
    have hpow : 2 ^ a ≤ 10 ^ b :=
      pow_le_pow_of_le (p := 93) (q := 28) (by norm_num) (by decide) (by decide) (by omega)
    rw [zpow_neg, zpow_neg, zpow_natCast, zpow_natCast]
    exact inv_anti₀ (by positivity) (by exact_mod_cast hpow)

end Leading

section Reading

/-- The numbers of the format lie between these powers of two. -/
theorem between_of_isCanonical (hc : (finite negative m e).IsCanonical) (hm : 0 < m) :
    (2 : ℚ) ^ (-1074 : ℤ) ≤ m * 2 ^ e ∧ (m : ℚ) * 2 ^ e + 2 ^ e ≤ 2 ^ (1024 : ℤ) := by
  obtain ⟨hleast, hgreatest, hless, -⟩ := hc
  have hone : (1 : ℚ) ≤ m := by exact_mod_cast hm
  have hpos : (0 : ℚ) < 2 ^ e := by positivity
  constructor
  · calc (2 : ℚ) ^ (-1074 : ℤ) ≤ 2 ^ e := zpow_le_zpow_right₀ (by norm_num) hleast
      _ ≤ m * 2 ^ e := le_mul_of_one_le_left hpos.le hone
  · have hnext : (m : ℚ) + 1 ≤ 2 * fullMantissa := by exact_mod_cast hless
    calc (m : ℚ) * 2 ^ e + 2 ^ e = (m + 1) * 2 ^ e := by ring
      _ ≤ 2 * fullMantissa * 2 ^ e := mul_le_mul_of_nonneg_right hnext hpos.le
      _ = 2 ^ (e + 53) := by
          rw [mul_assoc, fullMantissa_mul, ← zpow_one_add₀ (by norm_num)]
          congr 1
          omega
      _ ≤ 2 ^ (1024 : ℤ) := by
          have hbound : e ≤ 971 := hgreatest
          exact zpow_le_zpow_right₀ (by norm_num) (by omega)

theorem value_of (m : Nat) (e : Int) :
    (((RoundingRange.of m e).value * (RoundingRange.of m e).unit.1 : Nat) : ℚ) /
      (RoundingRange.of m e).unit.2 = m * 2 ^ e := by
  have hvalue : (RoundingRange.of m e).value = 4 * m := rfl
  rw [Nat.cast_mul, mul_div_assoc, unit_of, hvalue]
  push_cast
  ring

/-- Seventeen places behind the leading one, a decimal lies in the range of every number. -/
theorem contains_shortest (hc : (finite negative m e).IsCanonical) (hm : 0 < m) :
    (RoundingRange.of m e).Contains (shortest m e).worth := by
  have hunit : 0 < (RoundingRange.of m e).unit.2 := scaleDown_den_pos Nat.one_pos 1 (2 - e)
  have hvalue := value_of m e
  have hpos : (0 : ℚ) < 2 ^ e := by positivity
  have hcast : (0 : ℚ) < m := by exact_mod_cast hm
  obtain ⟨hleast, hgreatest⟩ := between_of_isCanonical hc hm
  rw [← holds_iff hunit, shortest]
  generalize hnum : (RoundingRange.of m e).value * (RoundingRange.of m e).unit.1 = num at hvalue
  have hnumpos : 0 < num := by
    rcases Nat.eq_zero_or_pos num with rfl | hnumpos
    · rw [Nat.cast_zero, zero_div] at hvalue
      exact absurd hvalue (by positivity)
    · exact hnumpos
  obtain ⟨hlow, hhigh⟩ := between_log2 hnumpos hunit
  rw [hvalue] at hlow hhigh
  generalize hden : (RoundingRange.of m e).unit.2 = den at *
  have hstart : (10 : ℚ) ^ (((Nat.log2 num : Int) - Nat.log2 den - 1) * 30103 / 100000 - 2) ≤
      num / den := by
    have hbelow : (Nat.log2 num : Int) - Nat.log2 den - 1 < 1024 := by
      rw [← zpow_lt_zpow_iff_right₀ (by norm_num : (1 : ℚ) < 2)]
      linarith
    have habove : -1074 < (Nat.log2 num : Int) - Nat.log2 den + 1 := by
      rw [← zpow_lt_zpow_iff_right₀ (by norm_num : (1 : ℚ) < 2)]
      linarith
    rw [hvalue]
    exact (ten_zpow_le (le_refl _) (by omega) (by omega)).trans hlow.le
  have hleading := leadingPlace_le hunit 6 hstart
  generalize leadingPlace num den 6 _ = leading at hleading ⊢
  rw [hvalue] at hleading
  refine firstOf_holds (n := 17) (by decide) (nearestAt_isSome hm ?_)
  have hless : (m : ℚ) < 2 * fullMantissa := by exact_mod_cast hc.2.2.1
  have hfull : (2 : ℚ) * fullMantissa ≤ 10 ^ (17 : ℤ) / 4 := by norm_num [fullMantissa]
  rw [zpow_sub₀ (by norm_num), div_le_iff₀ (by positivity)]
  calc (10 : ℚ) ^ leading ≤ m * 2 ^ e := hleading
    _ ≤ 10 ^ (17 : ℤ) / 4 * 2 ^ e := mul_le_mul_of_nonneg_right (by linarith) hpos.le
    _ = 2 ^ e / 4 * 10 ^ ((17 : Nat) : ℤ) := by
        rw [Nat.cast_ofNat]
        ring

theorem ten_pow_le_iff {n p : Nat} (hn : 0 < n) :
    10 ^ p ≤ n ↔ p < (Nat.toDigits 10 n).length := by
  cases p with
  | zero =>
    have hlength := List.length_pos_iff.2 (Nat.toDigits_ne_nil (b := 10) (n := n))
    exact ⟨fun _ => hlength, fun _ => hn⟩
  | succ p =>
    rw [← not_iff_not, Nat.not_le, Nat.not_lt, Nat.length_toDigits_le_iff (by decide) p.succ_pos]

theorem between_of_contains {x : ℚ} (hc : (finite negative m e).IsCanonical) (hm : 0 < m)
    (h : (RoundingRange.of m e).Contains x) : (2 : ℚ) ^ (-1075 : ℤ) ≤ x ∧ x < 2 ^ (1024 : ℤ) := by
  obtain ⟨hleast, hgreatest⟩ := between_of_isCanonical hc hm
  obtain ⟨hlow, hhigh⟩ := Contains.between hm h
  have hpos : (0 : ℚ) < 2 ^ e := by positivity
  have hone : (1 : ℚ) ≤ m := by exact_mod_cast hm
  have hhalf := reachBelow_le m e
  have hdivided : x / 2 ^ e * 2 ^ e = x := div_mul_cancel₀ x hpos.ne'
  constructor
  · calc (2 : ℚ) ^ (-1075 : ℤ) = 1 / 2 * 2 ^ (-1074 : ℤ) := by
          rw [show (-1075 : ℤ) = -1 + -1074 by norm_num, zpow_add₀ (by norm_num)]
          norm_num
      _ ≤ 1 / 2 * (m * 2 ^ e) := by linarith
      _ = m / 2 * 2 ^ e := by ring
      _ ≤ x / 2 ^ e * 2 ^ e := mul_le_mul_of_nonneg_right (by linarith) hpos.le
      _ = x := hdivided
  · calc x = x / 2 ^ e * 2 ^ e := hdivided.symm
      _ < (m + 1) * 2 ^ e := mul_lt_mul_of_pos_right (by linarith) hpos
      _ = m * 2 ^ e + 2 ^ e := by ring
      _ ≤ 2 ^ (1024 : ℤ) := hgreatest

/-- The place of the leading digit tells no number of the format from zero or from infinity. -/
theorem magnitude_of_contains {n : Nat} {k : Int} (hc : (finite negative m e).IsCanonical)
    (hm : 0 < m) (h : (RoundingRange.of m e).Contains (Decimal.worth ⟨n, k⟩)) :
    0 < n ∧ -400 ≤ ((Nat.toDigits 10 n).length : Int) + k ∧
      ((Nat.toDigits 10 n).length : Int) + k ≤ 400 := by
  obtain ⟨hlow, hhigh⟩ := between_of_contains hc hm h
  rw [Decimal.worth] at hlow hhigh
  have hpos : (0 : ℚ) < 10 ^ k := by positivity
  have hn : 0 < n := by
    rcases Nat.eq_zero_or_pos n with rfl | hn
    · rw [Nat.cast_zero, zero_mul] at hlow
      exact absurd hlow (not_le.2 (by positivity))
    · exact hn
  obtain ⟨p, hp⟩ : ∃ p, (Nat.toDigits 10 n).length = p + 1 :=
    Nat.exists_eq_add_one.2 (List.length_pos_iff.2 Nat.toDigits_ne_nil)
  have hbelow : (10 : ℚ) ^ ((p : Int) + k) ≤ n * 10 ^ k := by
    have hle : 10 ^ p ≤ n := (ten_pow_le_iff hn).2 (by omega)
    rw [zpow_add₀ (by norm_num), zpow_natCast]
    exact mul_le_mul_of_nonneg_right (by exact_mod_cast hle) hpos.le
  have habove : (n : ℚ) * 10 ^ k < 10 ^ ((p : Int) + 1 + k) := by
    have hlt : n < 10 ^ (p + 1) := not_le.1 (mt (ten_pow_le_iff hn).1 (by omega))
    rw [zpow_add₀ (by norm_num), show (p : Int) + 1 = (p + 1 : Nat) from rfl, zpow_natCast]
    exact mul_lt_mul_of_pos_right (by exact_mod_cast hlt) hpos
  rw [hp]
  refine ⟨hn, ?_, ?_⟩
  · by_contra hsmall
    have hpower : (10 : ℚ) ^ ((p : Int) + 1 + k) ≤ 2 ^ (-1075 : ℤ) :=
      ten_zpow_le (by omega) (by omega) (by omega)
    linarith
  · by_contra hlarge
    have hpower : (2 : ℚ) ^ (1024 : ℤ) ≤ 10 ^ ((p : Int) + k) := by
      have hpow : 2 ^ 1024 ≤ 10 ^ 400 :=
        pow_le_pow_of_le (p := 93) (q := 28) (by norm_num) (by decide) (by decide) (by decide)
      calc (2 : ℚ) ^ (1024 : ℤ) ≤ 10 ^ (400 : ℤ) := by exact_mod_cast hpow
        _ ≤ 10 ^ ((p : Int) + k) := zpow_le_zpow_right₀ (by norm_num) (by omega)
    linarith

/-- A decimal in the range of a number of the format is read as this number. -/
theorem ofDecimal_of_contains {n : Nat} {k : Int} (hc : (finite negative m e).IsCanonical) (hm : 0 < m)
    (h : (RoundingRange.of m e).Contains (Decimal.worth ⟨n, k⟩)) :
    ofDecimal negative n k = .finite negative m e := by
  obtain ⟨hn, hlow, hhigh⟩ := magnitude_of_contains hc hm h
  have hquotient : ofQuotient negative (tenfold n k).1 (tenfold n k).2 = .finite negative m e := by
    refine ofQuotient_of_contains hc hm (tenfold_den_pos n k) ?_
    rwa [tenfold_eq]
  rw [tenfold] at hquotient
  simp only [ofDecimal, hn.ne', decide_false, Bool.false_or, not_lt.2 hlow, not_lt.2 hhigh,
    Bool.false_eq_true, if_false]
  split
  · next hk => rwa [if_pos hk] at hquotient
  · next hk => rwa [if_neg hk] at hquotient

end Reading

section Zeros

theorem stripZeros_eq (fuel n : Nat) : (stripZeros fuel n).1 * 10 ^ (stripZeros fuel n).2 = n := by
  induction fuel generalizing n with
  | zero => exact Nat.mul_one n
  | succ fuel ih =>
    rw [stripZeros]
    split
    · next h =>
      have hzero : n % 10 = 0 := by
        simp only [Bool.and_eq_true, decide_eq_true_eq] at h
        exact h.2
      rw [Nat.pow_succ, ← Nat.mul_assoc, ih]
      omega
    · exact Nat.mul_one n

/-- Zeros at the end of the digits count in the exponent. -/
theorem worth_stripZeros (fuel : Nat) (d : Decimal) :
    Decimal.worth ⟨(stripZeros fuel d.digits).1, d.exponent + (stripZeros fuel d.digits).2⟩ =
      d.worth := by
  have hdigits : (((stripZeros fuel d.digits).1 * 10 ^ (stripZeros fuel d.digits).2 : Nat) : ℚ) =
      d.digits := by rw [stripZeros_eq]
  push_cast at hdigits
  rw [Decimal.worth, Decimal.worth, ← hdigits, zpow_add₀ (by norm_num), zpow_natCast]
  ring

end Zeros

end QueryFence.Binary64
