import QueryFence.Text.SmallLetter

/-!
Words of ASCII letters in the small form of a text. No letter beyond ASCII has one of them as its small
form, but for the sign of the kelvin, whose small form is a `k`.
-/

namespace QueryFence.Text

/-- ASCII characters, without the one that is the small form of another. -/
def IsPlainWord (w : Text) : Prop := ∀ c ∈ w, c.toNat < 128 ∧ c ≠ 'k'

instance (w : Text) : Decidable (IsPlainWord w) :=
  List.decidableBAll (fun c : Char => c.toNat < 128 ∧ c ≠ 'k') w

/-- A run of letters starts and ends in ASCII, or is the sign of the kelvin, or its small forms are
characters beyond ASCII. -/
def CaseRun.IsApart (run : CaseRun) : Prop :=
  run.last < 128 ∨ (run.first = 0x212A ∧ run.last = 0x212A ∧ run.shift = -8383) ∨
    (128 ≤ run.first + run.shift ∧ run.last + run.shift < 0xD800) ∨
    (0xDFFF < run.first + run.shift ∧ run.last + run.shift < 0x110000)

instance (run : CaseRun) : Decidable run.IsApart := by
  unfold CaseRun.IsApart
  infer_instance

theorem isApart_of_mem_smallRuns : ∀ run ∈ smallRuns, run.IsApart := by decide +kernel

/-- What is true of the characters below 128 one by one is true of every character of ASCII. -/
theorem forall_ascii {P : Char → Prop} (h : ∀ n < 128, P (Char.ofNat n)) {c : Char}
    (hc : c.toNat < 128) : P c := by
  have hp := h c.toNat hc
  rwa [Char.ofNat_toNat] at hp

theorem toNat_ofNat {n : Nat} (h : n.isValidChar) : (Char.ofNat n).toNat = n := by
  rw [Char.ofNat, dif_pos h]
  rfl

/-- The small form of a letter beyond ASCII has a character beyond ASCII, or is a `k`. -/
theorem exists_foreign_mem_small {c : Char} (h : 128 ≤ c.toNat) (before behind : Text) :
    ∃ d ∈ small before c behind, 128 ≤ d.toNat ∨ d = 'k' := by
  rw [small, if_neg (Nat.not_lt.2 h)]
  split
  · refine ⟨_, List.mem_singleton_self _, .inl ?_⟩
    split <;> decide
  split
  · exact ⟨'\u0307', by decide, .inl (by decide)⟩
  split
  · next run hrun =>
    refine ⟨_, List.mem_singleton_self _, ?_⟩
    have hcovers := List.find?_some hrun
    simp only [CaseRun.covers, Bool.and_eq_true, decide_eq_true_eq] at hcovers
    obtain ⟨⟨hfirst, hlast⟩, -⟩ := hcovers
    rcases isApart_of_mem_smallRuns run (List.mem_of_find?_eq_some hrun) with
      hascii | ⟨hf, hl, hs⟩ | ⟨hlow, hhigh⟩ | ⟨hlow, hhigh⟩
    · omega
    · have hc : c.toNat = 0x212A := by omega
      rw [hc, hs]
      exact .inr (by decide)
    · left
      rw [toNat_ofNat (.inl (by omega))]
      omega
    · left
      rw [toNat_ofNat (.inr ⟨by omega, by omega⟩)]
      omega
  · exact ⟨c, List.mem_singleton_self _, .inl h⟩

theorem small_of_ascii {c : Char} (h : c.toNat < 128) (before behind : Text) :
    small before c behind = [c.toLower] := if_pos h

theorem lowerBehind_of_ascii {t : Text} (h : ∀ c ∈ t, c.toNat < 128) (before : Text) :
    lowerBehind before t = lowerAscii t := by
  induction t generalizing before with
  | nil => rfl
  | cons c t ih =>
    rw [lowerBehind, small_of_ascii (h c List.mem_cons_self),
      ih fun d hd => h d (List.mem_cons_of_mem c hd)]
    rfl

theorem ascii_of_lowerBehind {t : Text} (before : Text) (h : IsPlainWord (lowerBehind before t)) :
    ∀ c ∈ t, c.toNat < 128 := by
  induction t generalizing before with
  | nil => exact fun c hc => absurd hc List.not_mem_nil
  | cons c t ih =>
    rw [lowerBehind] at h
    intro d hd
    rcases List.mem_cons.1 hd with rfl | hd
    · apply Nat.lt_of_not_le
      intro hforeign
      obtain ⟨e, he, hout⟩ := exists_foreign_mem_small hforeign before t
      obtain ⟨hascii, hk⟩ := h e (List.mem_append_left _ he)
      rcases hout with hout | hout
      · omega
      · exact hk hout
    · exact ih (c :: before) (fun e he => h e (List.mem_append_right _ he)) d hd

theorem toNat_lt_of_toLower {c : Char} (h : c.toLower.toNat < 128) : c.toNat < 128 := by
  by_cases hc : 'A'.val ≤ c.val ∧ c.val ≤ 'Z'.val
  · have hupper : c.toNat ≤ 90 := hc.2
    omega
  · have hsame : c.toLower = c := dif_neg hc
    rwa [hsame] at h

/-- A word is the small form of a text exactly when it is what the ASCII capitals of the text leave. -/
theorem lower_eq_iff {w : Text} (hw : IsPlainWord w) {t : Text} : lower t = w ↔ lowerAscii t = w := by
  constructor
  · intro h
    have hascii : ∀ c ∈ t, c.toNat < 128 := ascii_of_lowerBehind [] (by rwa [← lower, h])
    rw [← h, lower, lowerBehind_of_ascii hascii]
  · intro h
    have hascii : ∀ c ∈ t, c.toNat < 128 := by
      intro c hc
      have hmem : c.toLower ∈ w := by
        rw [← h]
        exact List.mem_map_of_mem hc
      exact toNat_lt_of_toLower (hw _ hmem).1
    rw [lower, lowerBehind_of_ascii hascii, h]

end QueryFence.Text
