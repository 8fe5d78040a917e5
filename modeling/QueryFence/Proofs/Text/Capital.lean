import QueryFence.Text.Blank
import QueryFence.Text.CaseMap
import QueryFence.Text.Digit

/-!
Texts of ASCII capitals, which are their own capital form, and what keeps capitals and digits apart
from white space.
-/

namespace QueryFence.Text

/-- The characters of the words for kinds. -/
def IsCapitals (t : Text) : Prop := ∀ c ∈ t, c.isUpper = true ∨ c = '_'

instance (t : Text) : Decidable (IsCapitals t) :=
  List.decidableBAll (fun c : Char => c.isUpper = true ∨ c = '_') t

theorem toNat_of_isUpper {c : Char} (h : c.isUpper = true) : 65 ≤ c.toNat ∧ c.toNat ≤ 90 := by
  have hval : 65 ≤ c.val ∧ c.val ≤ 90 := of_decide_eq_true h
  exact hval

theorem capital_of_isUpper {c : Char} (h : c.isUpper = true) : capital c = [c] := by
  obtain ⟨hl, hu⟩ := toNat_of_isUpper h
  have hn : ¬('a'.val ≤ c.val ∧ c.val ≤ 'z'.val) := by
    rintro ⟨ha, -⟩
    have hb : 97 ≤ c.toNat := ha
    omega
  have hupper : c.toUpper = c := dif_neg hn
  rw [capital, if_pos (by omega), hupper]

theorem upper_append (s t : Text) : upper (s ++ t) = upper s ++ upper t := List.flatMap_append

theorem IsCapitals.upper {t : Text} (h : IsCapitals t) : Text.upper t = t := by
  induction t with
  | nil => rfl
  | cons c t ih =>
    have hc : capital c = [c] := by
      rcases h c List.mem_cons_self with hu | rfl
      · exact capital_of_isUpper hu
      · rfl
    rw [Text.upper, List.flatMap_cons, hc]
    exact congrArg (c :: ·) (ih fun d hd => h d (List.mem_cons_of_mem c hd))

theorem isBlank_of_isUpper {c : Char} (h : c.isUpper = true) : isBlank c = false := by
  obtain ⟨hl, hu⟩ := toNat_of_isUpper h
  simp only [isBlank, Bool.or_eq_false_iff, Bool.and_eq_false_iff, decide_eq_false_iff_not,
    beq_eq_false_iff_ne]
  omega

theorem IsCapitals.isBlank {t : Text} (h : IsCapitals t) : ∀ c ∈ t, Text.isBlank c = false := by
  intro c hc
  rcases h c hc with hu | rfl
  · exact isBlank_of_isUpper hu
  · rfl

theorem isDigit_of_ascii {c : Char} (h : c.isDigit = true) : isDigit c = true := by
  have hd := Char.isDigit_iff_toNat.1 h
  have h0 : '0'.toNat = 48 := rfl
  have h9 : '9'.toNat = 57 := rfl
  rw [isDigit, inRuns, digitRuns, List.any_cons, Bool.or_eq_true, Bool.and_eq_true,
    decide_eq_true_eq, decide_eq_true_eq]
  exact .inl ⟨by omega, by omega⟩

/-- The code points of white space. -/
def blankCodes : List Nat :=
  [9, 10, 11, 12, 13, 28, 29, 30, 31, 32, 0x85, 0xA0, 0x1680, 0x2000, 0x2001, 0x2002, 0x2003,
    0x2004, 0x2005, 0x2006, 0x2007, 0x2008, 0x2009, 0x200A, 0x2028, 0x2029, 0x202F, 0x205F, 0x3000]

theorem mem_blankCodes {c : Char} (h : Text.isBlank c = true) : c.toNat ∈ blankCodes := by
  simp only [Text.isBlank, Bool.or_eq_true, Bool.and_eq_true, decide_eq_true_eq, beq_iff_eq] at h
  simp only [blankCodes, List.mem_cons, List.not_mem_nil, or_false]
  omega

/-- No white space is a digit of any script. -/
theorem isBlank_of_isDigit {c : Char} (h : isDigit c = true) : Text.isBlank c = false := by
  have hn : ∀ n ∈ blankCodes, inRuns digitRuns n = false := by decide
  cases hb : Text.isBlank c with
  | false => rfl
  | true =>
    rw [isDigit, hn _ (mem_blankCodes hb)] at h
    exact absurd h Bool.false_ne_true

end QueryFence.Text
