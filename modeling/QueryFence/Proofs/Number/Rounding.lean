import QueryFence.Number.Shortest
import Mathlib.Algebra.Order.Field.Power
import Mathlib.Algebra.Order.Ring.Abs
import Mathlib.Data.Rat.Cast.Order
import Mathlib.Tactic.FieldSimp
import Mathlib.Tactic.Linarith
import Mathlib.Tactic.NormNum
import Mathlib.Tactic.Positivity
import Mathlib.Tactic.Ring

/-!
Rounding to a floating-point number: a positive quotient that lies in the rounding range of a number of
the format becomes this number.
-/

namespace QueryFence.Binary64

/-- The numbers of the format, each in one form only: the mantissa is full unless the exponent is the
least. -/
def IsCanonical : Binary64 → Prop
  | .finite _ m e => leastExponent ≤ e ∧ e ≤ greatestExponent ∧ m < 2 * fullMantissa ∧
      (fullMantissa ≤ m ∨ e = leastExponent)
  | .infinite _ => True
  | .nan => True

instance (x : Binary64) : Decidable x.IsCanonical :=
  match x with
  | .finite _ m e => inferInstanceAs (Decidable (leastExponent ≤ e ∧ e ≤ greatestExponent ∧
      m < 2 * fullMantissa ∧ (fullMantissa ≤ m ∨ e = leastExponent)))
  | .infinite _ => .isTrue trivial
  | .nan => .isTrue trivial

section Quotients

theorem fullMantissa_eq : (fullMantissa : ℚ) = 2 ^ (52 : ℤ) := by
  norm_num [fullMantissa]

theorem fullMantissa_mul (e : Int) : (fullMantissa : ℚ) * 2 ^ e = 2 ^ (e + 52) := by
  rw [fullMantissa_eq, ← zpow_add₀ (by norm_num), Int.add_comm]

theorem scaleDown_den_pos {den : Nat} (h : 0 < den) (num : Nat) (k : Int) :
    0 < (scaleDown num den k).2 := by
  rw [scaleDown]
  split
  · exact Nat.mul_pos h (Nat.pow_pos (by decide))
  · exact h

theorem scaleDown_eq (num den : Nat) (k : Int) :
    ((scaleDown num den k).1 : ℚ) / (scaleDown num den k).2 = num / den / 2 ^ k := by
  rw [scaleDown]
  split
  · next h =>
    obtain ⟨n, rfl⟩ := Int.eq_ofNat_of_zero_le h
    simp only [Int.toNat_natCast, Nat.pow_eq, zpow_natCast]
    push_cast
    rw [div_div]
  · next h =>
    obtain ⟨n, rfl⟩ : ∃ n : Nat, k = -n := ⟨(-k).toNat, by omega⟩
    simp only [neg_neg, Int.toNat_natCast, Nat.pow_eq, zpow_neg, zpow_natCast]
    push_cast
    rw [div_inv_eq_mul, div_mul_eq_mul_div]

theorem tenfold_den_pos (n : Nat) (k : Int) : 0 < (tenfold n k).2 := by
  rw [tenfold]
  split
  · exact Nat.one_pos
  · exact Nat.pow_pos (by decide)

theorem tenfold_eq (n : Nat) (k : Int) :
    ((tenfold n k).1 : ℚ) / (tenfold n k).2 = n * 10 ^ k := by
  rw [tenfold]
  split
  · next h =>
    obtain ⟨p, rfl⟩ := Int.eq_ofNat_of_zero_le h
    simp only [Int.toNat_natCast, Nat.pow_eq, zpow_natCast]
    push_cast
    rw [div_one]
  · next h =>
    obtain ⟨p, rfl⟩ : ∃ p : Nat, k = -p := ⟨(-k).toNat, by omega⟩
    simp only [neg_neg, Int.toNat_natCast, Nat.pow_eq, zpow_neg, zpow_natCast]
    push_cast
    rw [div_eq_mul_inv]

end Quotients

section Nearest

/-- A natural number is the nearest to a rational; halfway between two it is the even one. -/
def IsNearest (x : ℚ) (m : Nat) : Prop := |x - m| < 1 / 2 ∨ |x - m| = 1 / 2 ∧ m % 2 = 0

theorem IsNearest.distance_le {x : ℚ} {m : Nat} (h : IsNearest x m) : |x - m| ≤ 1 / 2 :=
  h.elim le_of_lt fun h => h.1.le

theorem IsNearest.le {x : ℚ} {m n : Nat} (hm : IsNearest x m) (hn : IsNearest x n) : m ≤ n := by
  by_contra hlt
  have hstep : (n : ℚ) + 1 ≤ m := by exact_mod_cast not_le.1 hlt
  have habove := abs_le.1 hm.distance_le
  have hbelow := abs_le.1 hn.distance_le
  have hm' : |x - m| = 1 / 2 := by
    rw [abs_of_nonpos (by linarith)]
    linarith
  have hn' : |x - n| = 1 / 2 := by
    rw [abs_of_nonneg (by linarith)]
    linarith
  have hnext : m = n + 1 := by
    have hcast : (m : ℚ) = n + 1 := by linarith
    exact_mod_cast hcast
  have hevenm : m % 2 = 0 := hm.elim (fun h => absurd hm' h.ne) And.right
  have hevenn : n % 2 = 0 := hn.elim (fun h => absurd hn' h.ne) And.right
  omega

theorem IsNearest.eq {x : ℚ} {m n : Nat} (hm : IsNearest x m) (hn : IsNearest x n) : m = n :=
  Nat.le_antisymm (hm.le hn) (hn.le hm)

/-- The nearest number to a rational below a natural number is not above that number. -/
theorem IsNearest.le_of_lt {x : ℚ} {m n : Nat} (h : IsNearest x m) (hx : x < n) : m ≤ n := by
  by_contra hlt
  have hstep : (n : ℚ) + 1 ≤ m := by exact_mod_cast not_le.1 hlt
  have hhigh := abs_le.1 h.distance_le
  linarith

theorem IsNearest.le_of_le {x : ℚ} {m n : Nat} (h : IsNearest x m) (hx : n ≤ x) : n ≤ m := by
  by_contra hlt
  have hstep : (m : ℚ) + 1 ≤ n := by exact_mod_cast not_le.1 hlt
  have hlow := abs_le.1 h.distance_le
  linarith

theorem isNearest_roundedQuotient (num : Nat) {den : Nat} (h : 0 < den) :
    IsNearest (num / den) (roundedQuotient num den) := by
  have hpos : (0 : ℚ) < den := by exact_mod_cast h
  have hrest : ((num % den : Nat) : ℚ) / den = num / den - (num / den : Nat) := by
    have hsplit : ((num / den : Nat) : ℚ) * den + (num % den : Nat) = num := by
      exact_mod_cast Nat.div_add_mod' num den
    field_simp
    linarith
  have hless : ((num % den : Nat) : ℚ) / den < 1 := by
    rw [div_lt_one hpos]
    exact_mod_cast Nat.mod_lt num h
  have hnonneg : (0 : ℚ) ≤ ((num % den : Nat) : ℚ) / den := by positivity
  rw [roundedQuotient]
  rcases Nat.lt_trichotomy (2 * (num % den)) den with hlow | htie | hhigh
  · rw [if_pos hlow]
    have hhalf : ((num % den : Nat) : ℚ) / den < 1 / 2 := by
      rw [div_lt_div_iff₀ hpos (by norm_num)]
      have : ((2 * (num % den) : Nat) : ℚ) < den := by exact_mod_cast hlow
      push_cast at this
      linarith
    refine .inl ?_
    rw [← hrest, abs_of_nonneg hnonneg]
    exact hhalf
  · rw [if_neg (by omega), if_neg (by omega)]
    have hhalf : ((num % den : Nat) : ℚ) / den = 1 / 2 := by
      rw [div_eq_div_iff hpos.ne' (by norm_num)]
      have : ((2 * (num % den) : Nat) : ℚ) = den := by exact_mod_cast htie
      push_cast at this
      linarith
    refine .inr ⟨?_, by omega⟩
    rcases Nat.mod_two_eq_zero_or_one (num / den) with heven | hodd
    · rw [heven, Nat.add_zero, ← hrest, hhalf]
      norm_num
    · rw [hodd]
      push_cast
      rw [abs_of_nonpos (by linarith)]
      linarith
  · rw [if_neg (by omega), if_pos hhigh]
    have hhalf : (1 : ℚ) / 2 < ((num % den : Nat) : ℚ) / den := by
      rw [div_lt_div_iff₀ (by norm_num) hpos]
      have : (den : ℚ) < ((2 * (num % den) : Nat) : ℚ) := by exact_mod_cast hhigh
      push_cast at this
      linarith
    refine .inl ?_
    push_cast
    rw [abs_of_nonpos (by linarith)]
    linarith

end Nearest

section Exponents

/-- The exponent with which the format holds a positive rational. -/
structure HasExponent (x : ℚ) (e : Int) : Prop where
  least_le : leastExponent ≤ e
  lt : x < 2 ^ (e + 53)
  full : 2 ^ (e + 52) ≤ x ∨ e = leastExponent

theorem HasExponent.le {x : ℚ} {e f : Int} (he : HasExponent x e) (hf : HasExponent x f) : e ≤ f := by
  by_contra hlt
  have hleast := hf.least_le
  have hfull : (2 : ℚ) ^ (e + 52) ≤ x := he.full.resolve_right (by omega)
  have hpower : (2 : ℚ) ^ (f + 53) ≤ 2 ^ (e + 52) := zpow_le_zpow_right₀ (by norm_num) (by omega)
  exact absurd (hfull.trans_lt hf.lt) (not_lt.2 hpower)

theorem HasExponent.eq {x : ℚ} {e f : Int} (he : HasExponent x e) (hf : HasExponent x f) : e = f :=
  Int.le_antisymm (he.le hf) (hf.le he)

/-- The exponent that rounding takes for a quotient. -/
def exponentOf (num den : Nat) : Int :=
  let guess : Int := (Nat.log2 num : Int) - Nat.log2 den - 52
  let down := scaleDown num den guess
  max leastExponent (if down.1 / down.2 < fullMantissa then guess - 1 else guess)

theorem zpow_log2_le {n : Nat} (h : 0 < n) : (2 : ℚ) ^ (Nat.log2 n : Int) ≤ n := by
  rw [zpow_natCast]
  exact_mod_cast Nat.log2_self_le h.ne'

theorem lt_zpow_log2 (n : Nat) : (n : ℚ) < 2 ^ ((Nat.log2 n : Int) + 1) := by
  have hlt : n < 2 ^ (Nat.log2 n + 1) := Nat.lt_log2_self
  have hcast : (n : ℚ) < 2 ^ (Nat.log2 n + 1) := by exact_mod_cast hlt
  rwa [← zpow_natCast] at hcast

/-- A quotient lies between powers of two that the lengths of its two numbers tell. -/
theorem between_log2 {num den : Nat} (hnum : 0 < num) (hden : 0 < den) :
    (2 : ℚ) ^ ((Nat.log2 num : Int) - Nat.log2 den - 1) < num / den ∧
      (num : ℚ) / den < 2 ^ ((Nat.log2 num : Int) - Nat.log2 den + 1) := by
  have hpos : (0 : ℚ) < den := by exact_mod_cast hden
  have htwo : (2 : ℚ) ≠ 0 := by norm_num
  constructor
  · rw [lt_div_iff₀ hpos]
    calc (2 : ℚ) ^ ((Nat.log2 num : Int) - Nat.log2 den - 1) * den
        < 2 ^ ((Nat.log2 num : Int) - Nat.log2 den - 1) * 2 ^ ((Nat.log2 den : Int) + 1) :=
          mul_lt_mul_of_pos_left (lt_zpow_log2 den) (by positivity)
      _ = 2 ^ (Nat.log2 num : Int) := by
          rw [← zpow_add₀ htwo]
          congr 1
          omega
      _ ≤ num := zpow_log2_le hnum
  · rw [div_lt_iff₀ hpos]
    calc (num : ℚ) < 2 ^ ((Nat.log2 num : Int) + 1) := lt_zpow_log2 num
      _ = 2 ^ ((Nat.log2 num : Int) - Nat.log2 den + 1) * 2 ^ (Nat.log2 den : Int) := by
          rw [← zpow_add₀ htwo]
          congr 1
          omega
      _ ≤ 2 ^ ((Nat.log2 num : Int) - Nat.log2 den + 1) * den :=
          mul_le_mul_of_nonneg_left (zpow_log2_le hden) (by positivity)

theorem hasExponent_exponentOf {num den : Nat} (hnum : 0 < num) (hden : 0 < den) :
    HasExponent (num / den) (exponentOf num den) := by
  obtain ⟨hlow, hhigh⟩ := between_log2 hnum hden
  rw [exponentOf]
  generalize hg : (Nat.log2 num : Int) - Nat.log2 den - 52 = guess
  have hlow' : (2 : ℚ) ^ (guess + 51) < num / den := by
    rwa [← hg, show (Nat.log2 num : Int) - Nat.log2 den - 52 + 51 =
      Nat.log2 num - Nat.log2 den - 1 by omega]
  have hhigh' : (num : ℚ) / den < 2 ^ (guess + 53) := by
    rwa [← hg, show (Nat.log2 num : Int) - Nat.log2 den - 52 + 53 =
      Nat.log2 num - Nat.log2 den + 1 by omega]
  have hdown := scaleDown_den_pos hden num guess
  have htest : (scaleDown num den guess).1 / (scaleDown num den guess).2 < fullMantissa ↔
      (num : ℚ) / den < 2 ^ (guess + 52) := by
    have hpos : (0 : ℚ) < (scaleDown num den guess).2 := by exact_mod_cast hdown
    rw [Nat.div_lt_iff_lt_mul hdown, ← fullMantissa_mul,
      ← div_lt_iff₀ (by positivity : (0 : ℚ) < 2 ^ guess), ← scaleDown_eq, div_lt_iff₀ hpos]
    exact_mod_cast Iff.rfl
  -- Before the least exponent is taken into account, the quotient has the exponent `e`.
  obtain ⟨e, he, hfull, hlt⟩ : ∃ e : Int, e = (if (scaleDown num den guess).1 /
      (scaleDown num den guess).2 < fullMantissa then guess - 1 else guess) ∧
      (2 : ℚ) ^ (e + 52) ≤ num / den ∧ (num : ℚ) / den < 2 ^ (e + 53) := by
    split
    · next hless =>
      refine ⟨guess - 1, rfl, ?_, ?_⟩
      · rw [show guess - 1 + 52 = guess + 51 by omega]
        exact hlow'.le
      · rw [show guess - 1 + 53 = guess + 52 by omega]
        exact htest.1 hless
    · next hless => exact ⟨guess, rfl, not_lt.1 (mt htest.2 hless), hhigh'⟩
  rw [← he]
  rcases le_total leastExponent e with hle | hle
  · rw [max_eq_right hle]
    exact ⟨hle, hlt, .inl hfull⟩
  · rw [max_eq_left hle]
    exact ⟨le_refl _, hlt.trans_le (zpow_le_zpow_right₀ (by norm_num) (by omega)), .inr rfl⟩

end Exponents

section Quotient

variable {num den m : Nat} {e : Int}

/-- A quotient becomes the mantissa nearest to it, with its exponent; a mantissa that is twice full is
carried. -/
theorem ofQuotient_of_isNearest (negative : Bool) (hnum : 0 < num) (hden : 0 < den)
    (he : HasExponent (num / den) e) (hm : IsNearest (num / den / 2 ^ e) m) :
    ofQuotient negative num den =
      let carried := if m = 2 * fullMantissa then (fullMantissa, e + 1) else (m, e)
      if greatestExponent < carried.2 then .infinite negative
      else .finite negative carried.1 carried.2 := by
  obtain rfl := (hasExponent_exponentOf hnum hden).eq he
  have hround := isNearest_roundedQuotient (scaleDown num den (exponentOf num den)).1
    (scaleDown_den_pos hden num (exponentOf num den))
  rw [scaleDown_eq] at hround
  obtain rfl := hround.eq hm
  rw [ofQuotient, if_neg hnum.ne']
  rfl

end Quotient

section Range

/-- The rationals of a range. -/
def RoundingRange.Contains (r : RoundingRange) (x : ℚ) : Prop :=
  let unit : ℚ := r.unit.1 / r.unit.2
  if r.closed then r.low * unit ≤ x ∧ x ≤ r.high * unit else r.low * unit < x ∧ x < r.high * unit

variable {negative : Bool} {num den m : Nat} {e : Int} {x : ℚ}

theorem unit_of (m : Nat) (e : Int) :
    ((RoundingRange.of m e).unit.1 : ℚ) / (RoundingRange.of m e).unit.2 = 2 ^ e / 4 := by
  rw [RoundingRange.of, scaleDown_eq, zpow_sub₀ (by norm_num)]
  norm_num

/-- How far below a mantissa its range begins. -/
def reachBelow (m : Nat) (e : Int) : ℚ :=
  if m = fullMantissa ∧ leastExponent < e then 1 / 4 else 1 / 2

theorem reachBelow_le (m : Nat) (e : Int) : reachBelow m e ≤ 1 / 2 := by
  rw [reachBelow]
  split <;> norm_num

/-- The range of a number in units of its last place. -/
theorem contains_of_iff (hm : 0 < m) : (RoundingRange.of m e).Contains x ↔
    if m % 2 = 0 then m - reachBelow m e ≤ x / 2 ^ e ∧ x / 2 ^ e ≤ m + 1 / 2
    else m - reachBelow m e < x / 2 ^ e ∧ x / 2 ^ e < m + 1 / 2 := by
  have hlow : ((RoundingRange.of m e).low : ℚ) = 4 * (m - reachBelow m e) := by
    simp only [RoundingRange.of, reachBelow, Bool.and_eq_true, decide_eq_true_eq]
    split
    · rw [Nat.cast_sub (by omega)]
      push_cast
      ring
    · rw [Nat.cast_sub (by omega)]
      push_cast
      ring
  have hhigh : ((RoundingRange.of m e).high : ℚ) = 4 * (m + 1 / 2) := by
    simp only [RoundingRange.of]
    push_cast
    ring
  have hclosed : (RoundingRange.of m e).closed = true ↔ m % 2 = 0 := by
    simp only [RoundingRange.of, beq_iff_eq]
  have hpos : (0 : ℚ) < 2 ^ e := by positivity
  have hscale : ∀ a : ℚ, 4 * a * (2 ^ e / 4) = a * 2 ^ e := fun a => by ring
  simp only [RoundingRange.Contains, unit_of, hlow, hhigh, hclosed, hscale, le_div_iff₀ hpos,
    div_le_iff₀ hpos, lt_div_iff₀ hpos, div_lt_iff₀ hpos]

theorem Contains.between (hm : 0 < m) (h : (RoundingRange.of m e).Contains x) :
    m - reachBelow m e ≤ x / 2 ^ e ∧ x / 2 ^ e ≤ m + 1 / 2 := by
  rw [contains_of_iff hm] at h
  split at h
  · exact h
  · exact ⟨h.1.le, h.2.le⟩

theorem Contains.pos (hm : 0 < m) (h : (RoundingRange.of m e).Contains x) : 0 < x := by
  have hone : (1 : ℚ) ≤ m := by exact_mod_cast hm
  have hbelow := reachBelow_le m e
  have hscaled : 0 < x / 2 ^ e := by
    have hlow := (Contains.between hm h).1
    linarith
  exact (div_pos_iff_of_pos_right (by positivity)).1 hscaled

/-- Of a range, what does not lie below a full mantissa is nearest to the number. -/
theorem Contains.isNearest (hm : 0 < m) (h : (RoundingRange.of m e).Contains x)
    (hfull : fullMantissa ≤ x / 2 ^ e ∨ e = leastExponent) : IsNearest (x / 2 ^ e) m := by
  have hlow : (m : ℚ) - 1 / 2 < x / 2 ^ e ∨ reachBelow m e = 1 / 2 := by
    rw [reachBelow]
    split
    · next hleast =>
      left
      have hge := hfull.resolve_right (by omega)
      rw [hleast.1]
      linarith
    · exact .inr rfl
  have hbetween := Contains.between hm h
  rw [contains_of_iff hm] at h
  by_cases heven : m % 2 = 0
  · have hle : |x / 2 ^ e - m| ≤ 1 / 2 := by
      rw [abs_le]
      constructor
      · rcases hlow with hlow | hlow <;> linarith
      · linarith
    exact hle.lt_or_eq.imp id fun htie => ⟨htie, heven⟩
  · rw [if_neg heven] at h
    left
    rw [abs_lt]
    constructor
    · rcases hlow with hlow | hlow <;> linarith
    · linarith

/-- Where the range reaches below a full mantissa, the mantissa is full, and what lies there rounds to
twice as much with an exponent less. -/
theorem Contains.isNearest_below (hm : 0 < m) (h : (RoundingRange.of m e).Contains x)
    (hfull : fullMantissa ≤ m) (hless : x / 2 ^ e < fullMantissa) (he : leastExponent < e) :
    m = fullMantissa ∧ HasExponent x (e - 1) ∧ IsNearest (x / 2 ^ (e - 1)) (2 * fullMantissa) := by
  obtain ⟨hlow, -⟩ := Contains.between hm h
  have hhalf := reachBelow_le m e
  obtain rfl : m = fullMantissa := by
    by_contra hne
    have hnext : (fullMantissa : ℚ) + 1 ≤ m := by exact_mod_cast Nat.lt_of_le_of_ne hfull (Ne.symm hne)
    linarith
  have hreach : reachBelow fullMantissa e = 1 / 4 := if_pos ⟨rfl, he⟩
  rw [hreach] at hlow
  have hpos : (0 : ℚ) < 2 ^ e := by positivity
  have hdouble : x / 2 ^ (e - 1) = 2 * (x / 2 ^ e) := by
    rw [zpow_sub₀ (by norm_num)]
    field_simp
  have hfourth : (2 : ℚ) ^ (e - 1 + 52) = fullMantissa / 2 * 2 ^ e := by
    rw [show e - 1 + 52 = e + 52 - 1 by omega, zpow_sub₀ (by norm_num), ← fullMantissa_mul]
    ring
  refine ⟨rfl, ⟨by omega, ?_, .inl ?_⟩, ?_⟩
  · rw [show e - 1 + 53 = e + 52 by omega, ← fullMantissa_mul, ← div_lt_iff₀ hpos]
    exact hless
  · rw [hfourth, ← le_div_iff₀ hpos]
    have hbig : (1 : ℚ) ≤ fullMantissa := by exact_mod_cast (by decide : 1 ≤ fullMantissa)
    linarith
  · rw [hdouble]
    have hle : |2 * (x / 2 ^ e) - (2 * fullMantissa : Nat)| ≤ 1 / 2 := by
      push_cast
      rw [abs_of_neg (by linarith)]
      linarith
    exact hle.lt_or_eq.imp id fun htie => ⟨htie, rfl⟩

/-- A quotient in the range of a number of the format becomes this number. -/
theorem ofQuotient_of_contains (hc : (finite negative m e).IsCanonical) (hm : 0 < m) (hden : 0 < den)
    (h : (RoundingRange.of m e).Contains (num / den)) :
    ofQuotient negative num den = .finite negative m e := by
  obtain ⟨hleast, hgreatest, hless, hfull⟩ := hc
  have hnum : 0 < num := by
    have hpos := Contains.pos hm h
    rcases Nat.eq_zero_or_pos num with rfl | hnum
    · rw [Nat.cast_zero, zero_div] at hpos
      exact absurd hpos (lt_irrefl _)
    · exact hnum
  have hpos : (0 : ℚ) < 2 ^ e := by positivity
  by_cases hge : fullMantissa ≤ (num : ℚ) / den / 2 ^ e ∨ e = leastExponent
  · have hexponent : HasExponent (num / den) e := by
      refine ⟨hleast, ?_, hge.imp_left fun hge => ?_⟩
      · have hnext : (m : ℚ) + 1 ≤ 2 * fullMantissa := by exact_mod_cast hless
        have hhigh := (Contains.between hm h).2
        rw [show e + 53 = e + 52 + 1 by omega, zpow_add₀ (by norm_num), ← fullMantissa_mul,
          mul_right_comm, ← div_lt_iff₀ hpos]
        linarith
      · rwa [← fullMantissa_mul, ← le_div_iff₀ hpos]
    rw [ofQuotient_of_isNearest negative hnum hden hexponent (Contains.isNearest hm h hge)]
    simp only [if_neg hless.ne, if_neg (not_lt.2 hgreatest)]
  · rw [not_or, not_le] at hge
    have hmantissa := hfull.resolve_right hge.2
    obtain ⟨rfl, hexponent, hnearest⟩ :=
      Contains.isNearest_below hm h hmantissa hge.1 (by omega)
    rw [ofQuotient_of_isNearest negative hnum hden hexponent hnearest]
    simp only [if_true, Int.sub_add_cancel, if_neg (not_lt.2 hgreatest)]

end Range

section Format

variable {num den : Nat}

theorem isCanonical_zero (negative : Bool) : (zero negative).IsCanonical := by
  cases negative <;> decide

/-- Rounding gives numbers of the format. -/
theorem isCanonical_ofQuotient (negative : Bool) (num : Nat) (hden : 0 < den) :
    (ofQuotient negative num den).IsCanonical := by
  rcases Nat.eq_zero_or_pos num with rfl | hnum
  · exact isCanonical_zero negative
  have he := hasExponent_exponentOf hnum hden
  have hround := isNearest_roundedQuotient (scaleDown num den (exponentOf num den)).1
    (scaleDown_den_pos hden num (exponentOf num den))
  rw [scaleDown_eq] at hround
  rw [ofQuotient_of_isNearest negative hnum hden he hround]
  generalize roundedQuotient (scaleDown num den (exponentOf num den)).1
    (scaleDown num den (exponentOf num den)).2 = m at hround ⊢
  generalize exponentOf num den = e at he hround ⊢
  have hpos : (0 : ℚ) < 2 ^ e := by positivity
  have hhigh : m ≤ 2 * fullMantissa := by
    apply hround.le_of_lt
    rw [div_lt_iff₀ hpos]
    push_cast
    rw [mul_assoc, fullMantissa_mul, ← zpow_one_add₀ (by norm_num)]
    exact he.lt.trans_eq (by congr 1; omega)
  have hlow : fullMantissa ≤ m ∨ e = leastExponent := by
    refine he.full.imp_left fun hfull => hround.le_of_le ?_
    rwa [le_div_iff₀ hpos, fullMantissa_mul]
  by_cases hcarry : m = 2 * fullMantissa
  · simp only [hcarry, if_true]
    split
    · trivial
    · next hfits => exact ⟨by have := he.least_le; omega, by omega, by decide, .inl le_rfl⟩
  · simp only [hcarry, if_false]
    split
    · trivial
    · next hfits => exact ⟨he.least_le, by omega, by omega, hlow⟩

theorem isCanonical_ofDecimal (negative : Bool) (mantissa : Nat) (exponent : Int) :
    (ofDecimal negative mantissa exponent).IsCanonical := by
  rw [ofDecimal]
  split
  · exact isCanonical_zero negative
  · split
    · trivial
    · split
      · exact isCanonical_ofQuotient negative _ Nat.one_pos
      · exact isCanonical_ofQuotient negative _ (Nat.pow_pos (by decide))

end Format

end QueryFence.Binary64
