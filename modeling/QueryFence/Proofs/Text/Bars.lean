import Mathlib.Algebra.Ring.Nat
import QueryFence.Proofs.Text.Capital
import QueryFence.Proofs.Text.Numeral
import QueryFence.Proofs.Text.Words

/-!
The bars of a text that count: those that no backslash stands before. What puts texts together between
blanks adds their bars, and the capital form of a text keeps them.
-/

namespace QueryFence.Text

/-- The bars without a backslash before them, in a text behind a character. -/
def openBarsBehind (before : Char) : Text → Nat
  | [] => 0
  | c :: rest => (if c = '|' ∧ before ≠ '\\' then 1 else 0) + openBarsBehind c rest

/-- The bars of a text without a backslash before them. -/
def openBars (t : Text) : Nat := openBarsBehind ' ' t

/-- One line that has no open bars: it fills one cell of a table. -/
def IsPlain (t : Text) : Prop := IsOneLine t ∧ openBars t = 0

instance (t : Text) : Decidable (IsPlain t) := inferInstanceAs (Decidable (_ ∧ _))

/-- One line without bars. -/
def IsBare (t : Text) : Prop := ∀ c ∈ t, c ≠ '|' ∧ isLineEnd c = false

instance (t : Text) : Decidable (IsBare t) :=
  List.decidableBAll (fun c : Char => c ≠ '|' ∧ isLineEnd c = false) t

variable {s t separator : Text} {parts : List Text} {before : Char}

theorem openBarsBehind_append (before : Char) (s t : Text) :
    openBarsBehind before (s ++ t) =
      openBarsBehind before s + openBarsBehind (s.getLast?.getD before) t := by
  induction s generalizing before with
  | nil => exact (Nat.zero_add _).symm
  | cons c s ih =>
    rw [List.cons_append, openBarsBehind, openBarsBehind, ih, List.getLast?_cons, Option.getD_some,
      Nat.add_assoc]

theorem openBarsBehind_of_not_mem (h : '|' ∉ t) (before : Char) : openBarsBehind before t = 0 := by
  induction t generalizing before with
  | nil => rfl
  | cons c t ih =>
    have hc : ¬ (c = '|' ∧ before ≠ '\\') := fun hb => h (hb.1 ▸ List.mem_cons_self)
    rw [openBarsBehind, if_neg hc, ih fun hm => h (List.mem_cons_of_mem c hm)]

/-- A bar is open unless a backslash stands right before it. -/
theorem openBarsBehind_eq_zero_iff : openBarsBehind before t = 0 ↔
    ∀ front back, t = front ++ '|' :: back → front.getLast?.getD before = '\\' := by
  induction t generalizing before with
  | nil =>
    apply iff_of_true rfl
    intro front back h
    cases front <;> cases h
  | cons c t ih =>
    rw [openBarsBehind, Nat.add_eq_zero_iff, ih]
    constructor
    · intro ⟨hfirst, hrest⟩ front back h
      cases front with
      | nil =>
        obtain ⟨rfl, -⟩ := List.cons.inj h
        by_contra hopen
        rw [if_pos ⟨rfl, hopen⟩] at hfirst
        cases hfirst
      | cons d front =>
        obtain ⟨rfl, ht⟩ := List.cons.inj h
        rw [List.getLast?_cons, Option.getD_some]
        exact hrest front back ht
    · intro h
      constructor
      · apply if_neg
        intro ⟨hbar, hopen⟩
        exact hopen (h [] t (congrArg (· :: t) hbar))
      · intro front back ht
        have hlast := h (c :: front) back (congrArg (c :: ·) ht)
        rwa [List.getLast?_cons, Option.getD_some] at hlast

/-- Every bar of a text stands behind a backslash. -/
def BarsAreEscaped (t : Text) : Prop :=
  ∀ front back, t = front ++ '|' :: back → front.getLast? = some '\\'

theorem openBars_eq_zero_iff : openBars t = 0 ↔ BarsAreEscaped t := by
  have hlast : ∀ last : Option Char, last.getD ' ' = '\\' ↔ last = some '\\' := by
    intro last
    cases last with
    | none => decide
    | some c => rw [Option.getD_some, Option.some_inj]
  rw [openBars, openBarsBehind_eq_zero_iff]
  simp only [hlast, BarsAreEscaped]

/-- A text that adds as many open bars between two others, whatever these are. -/
def IsDivider (bars : Nat) (separator : Text) : Prop :=
  ∀ before rest, openBarsBehind before (separator ++ rest) = bars + openBars rest

theorem isDivider_bar : IsDivider 1 " | " := by
  intro before rest
  simp [openBarsBehind, openBars]

theorem isDivider_comma : IsDivider 0 ", " := by
  intro before rest
  simp [openBarsBehind, openBars]

theorem openBars_append_divider {bars : Nat} (h : IsDivider bars separator) (s t : Text) :
    openBars (s ++ separator ++ t) = openBars s + bars + openBars t := by
  rw [List.append_assoc, openBars, openBarsBehind_append, h, ← Nat.add_assoc]
  rfl

/-- Joined texts have the open bars of all of them, and those between them. -/
theorem openBars_joinWith {bars : Nat} (h : IsDivider bars separator) (part : Text)
    (parts : List Text) : openBars (joinWith separator (part :: parts)) =
      ((part :: parts).map openBars).sum + bars * parts.length := by
  induction parts generalizing part with
  | nil => simp [joinWith]
  | cons next parts ih =>
    have hnext := ih next
    rw [joinWith] at hnext ⊢
    rw [List.intercalate_cons_cons, openBars_append_divider h, hnext, List.map_cons (l := next :: parts),
      List.sum_cons, List.length_cons, Nat.mul_add]
    omega

theorem IsPlain.joinWith (h : IsDivider 0 separator) (hs : IsOneLine separator)
    (hparts : ∀ part ∈ parts, IsPlain part) : IsPlain (joinWith separator parts) := by
  refine ⟨.joinWith hs fun part hp => (hparts part hp).1, ?_⟩
  cases parts with
  | nil => rfl
  | cons part parts =>
    have hzero : ((part :: parts).map openBars).sum = 0 :=
      List.sum_eq_zero_iff_forall_eq_nat.2 (List.forall_mem_map.2 fun p hp => (hparts p hp).2)
    rw [openBars_joinWith h, hzero, Nat.zero_mul]

theorem IsBare.isPlain (h : IsBare t) : IsPlain t :=
  ⟨fun c hc => (h c hc).2, openBarsBehind_of_not_mem (fun hm => (h _ hm).1 rfl) _⟩

theorem isBare_append_iff : IsBare (s ++ t) ↔ IsBare s ∧ IsBare t := List.forall_mem_append

theorem IsBare.joinWith (hs : IsBare separator) (h : ∀ part ∈ parts, IsBare part) :
    IsBare (joinWith separator parts) := by
  intro c hc
  rcases mem_joinWith hc with hc | ⟨part, hp, hc⟩
  · exact hs c hc
  · exact h part hp c hc

theorem isBare_of_isDigit (h : ∀ c ∈ t, c.isDigit = true) : IsBare t := by
  have hline : IsOneLine t :=
    isOneLine_of_isBlank fun c hc => isBlank_of_isDigit (isDigit_of_ascii (h c hc))
  intro c hc
  exact ⟨ne_of_isDigit (h c hc) (by decide), hline c hc⟩

theorem isBare_ofNat (n : Nat) : IsBare (ofNat n) := isBare_of_isDigit fun _ => isDigit_of_mem_ofNat

theorem isBare_padded (width n : Nat) : IsBare (padded width n) :=
  isBare_of_isDigit fun _ => isDigit_of_mem_padded

theorem isBare_ofInt (n : Int) : IsBare (ofInt n) := by
  cases n with
  | ofNat n => exact isBare_ofNat n
  | negSucc n => exact isBare_append_iff.2 ⟨(by decide : IsBare ['-']), isBare_ofNat (n + 1)⟩

/-- A text with a backslash before every bar has no open bars. -/
theorem openBarsBehind_replaceChar (before : Char) (t : Text) :
    openBarsBehind before (replaceChar '|' "\\|" t) = 0 := by
  induction t generalizing before with
  | nil => rfl
  | cons c t ih =>
    rw [replaceChar_cons]
    split
    · have hpair : openBarsBehind before "\\|".toList = 0 := by simp [openBarsBehind]
      rw [openBarsBehind_append, hpair, ih]
    · next hc =>
      have hone : openBarsBehind before [c] = 0 :=
        openBarsBehind_of_not_mem (fun hm => hc (List.mem_singleton.1 hm).symm) before
      rw [openBarsBehind_append, hone, ih]

theorem IsOneLine.replaceChar {c : Char} {by_ : Text} (h : IsOneLine t) (hby : IsOneLine by_) :
    IsOneLine (replaceChar c by_ t) := by
  intro d hd
  obtain ⟨e, he, hd⟩ := List.mem_flatMap.1 hd
  split at hd
  · exact hby d hd
  · rw [List.mem_singleton.1 hd]
    exact h e he

section Capitals

/-- The code points of the bar, the backslash and the characters that end a line. -/
def markCodes : List Nat := [10, 11, 12, 13, 28, 29, 30, 92, 124, 0x85, 0x2028, 0x2029]

theorem mem_markCodes_iff {c : Char} :
    c.toNat ∈ markCodes ↔ c = '|' ∨ c = '\\' ∨ isLineEnd c = true := by
  have hbar : c = '|' ↔ c.toNat = 124 := Char.toNat_inj.symm
  have hslash : c = '\\' ↔ c.toNat = 92 := Char.toNat_inj.symm
  rw [hbar, hslash]
  simp only [markCodes, isLineEnd, List.mem_cons, List.not_mem_nil, or_false, Bool.or_eq_true,
    Bool.and_eq_true, decide_eq_true_eq, beq_iff_eq]
  omega

/-- No capital of a run of letters is one of the marks. -/
def CaseRun.IsClear (run : CaseRun) : Prop :=
  ∀ n ∈ markCodes, (n : Int) < run.first + run.shift ∨ run.last + run.shift < n

instance (run : CaseRun) : Decidable run.IsClear :=
  List.decidableBAll (fun n : Nat => (n : Int) < run.first + run.shift ∨ run.last + run.shift < n)
    markCodes

theorem isClear_of_mem_capitalRuns : ∀ run ∈ capitalRuns, run.IsClear := by decide +kernel

theorem clear_of_mem_longCapitals : ∀ entry ∈ longCapitals, entry.2 ≠ [] ∧
    ∀ n ∈ entry.2, (Char.ofNat n).toNat ∉ markCodes := by decide +kernel

/-- A number is the code point of a character, or stands for the first of all characters. -/
theorem toNat_ofNat_or (n : Nat) : (Char.ofNat n).toNat = n ∨ (Char.ofNat n).toNat = 0 := by
  by_cases h : n.isValidChar
  · rw [Char.ofNat, dif_pos h]
    exact .inl rfl
  · rw [Char.ofNat, dif_neg h]
    exact .inr rfl

theorem capital_of_mark {c : Char} (h : c.toNat ∈ markCodes) : capital c = [c] := by
  have hall : ∀ n ∈ markCodes, capital (Char.ofNat n) = [Char.ofNat n] := by decide +kernel
  have hc := hall _ h
  rwa [Char.ofNat_toNat] at hc

/-- The capital form of what is no mark is not empty and has no marks. -/
theorem clear_capital {c : Char} (h : c.toNat ∉ markCodes) :
    capital c ≠ [] ∧ ∀ d ∈ capital c, d.toNat ∉ markCodes := by
  -- capital forms come from three places: the letters below 128, the long forms, and the runs
  rw [capital]
  split
  · next hascii =>
    have hall : ∀ n < 128, n ∉ markCodes → (Char.ofNat n).toUpper.toNat ∉ markCodes := by decide +kernel
    have hc := hall _ hascii h
    rw [Char.ofNat_toNat] at hc
    exact ⟨List.cons_ne_nil _ _, List.forall_mem_singleton.2 hc⟩
  split
  · next codes hcodes =>
    obtain ⟨before, behind, heq, -⟩ := List.lookup_eq_some_iff.1 hcodes
    obtain ⟨hne, hclear⟩ := clear_of_mem_longCapitals (c.toNat, codes)
      (heq ▸ List.mem_append_right _ List.mem_cons_self)
    refine ⟨fun hnil => hne (List.map_eq_nil_iff.1 hnil), ?_⟩
    exact List.forall_mem_map.2 hclear
  split
  · next run hrun =>
    refine ⟨List.cons_ne_nil _ _, List.forall_mem_singleton.2 ?_⟩
    have hcovers := List.find?_some hrun
    have hclear := isClear_of_mem_capitalRuns run (List.mem_of_find?_eq_some hrun)
    simp only [CaseRun.covers, Bool.and_eq_true, decide_eq_true_eq] at hcovers
    intro hm
    rcases toNat_ofNat_or (c.toNat + run.shift).toNat with hcode | hcode
    · rw [hcode] at hm
      have hpos : ∀ n ∈ markCodes, 0 < n := by decide
      have hn := hpos _ hm
      rcases hclear _ hm with hlt | hlt <;> omega
    · rw [hcode] at hm
      exact absurd hm (by decide)
  · exact ⟨List.cons_ne_nil _ _, List.forall_mem_singleton.2 h⟩

theorem openBarsBehind_upper {before' : Char} (h : before = '\\' ↔ before' = '\\') :
    openBarsBehind before (upper t) = openBarsBehind before' t := by
  induction t generalizing before before' with
  | nil => rfl
  | cons c t ih =>
    rw [upper, List.flatMap_cons, ← upper, openBarsBehind_append, openBarsBehind]
    by_cases hc : c.toNat ∈ markCodes
    · have hb : openBarsBehind before [c] = if c = '|' ∧ before' ≠ '\\' then 1 else 0 := by
        simp only [openBarsBehind, ne_eq, h, Nat.add_zero]
      rw [capital_of_mark hc, hb, List.getLast?_singleton, Option.getD_some, ih Iff.rfl]
    · obtain ⟨hne, hclear⟩ := clear_capital hc
      have hbar : '|' ∉ capital c := fun hm => hclear _ hm (by decide)
      have hc' : ¬ (c = '|' ∧ before' ≠ '\\') := fun hb => hc (mem_markCodes_iff.2 (.inl hb.1))
      have hlast : (capital c).getLast?.getD before ≠ '\\' := by
        rw [List.getLast?_eq_some_getLast hne, Option.getD_some]
        exact fun he => hclear _ (List.getLast_mem hne) (he ▸ by decide)
      have hslash : c ≠ '\\' := fun he => hc (mem_markCodes_iff.2 (.inr (.inl he)))
      rw [openBarsBehind_of_not_mem hbar, if_neg hc', ih (iff_of_false hlast hslash)]

theorem isOneLine_upper_iff : IsOneLine (upper t) ↔ IsOneLine t := by
  have hline : ∀ {c}, isLineEnd c = true → c.toNat ∈ markCodes := fun h =>
    mem_markCodes_iff.2 (.inr (.inr h))
  constructor
  · intro h c hc
    by_contra he
    rw [Bool.not_eq_false] at he
    have hm : c ∈ upper t := List.mem_flatMap.2
      ⟨c, hc, by rw [capital_of_mark (hline he)]; exact List.mem_singleton_self c⟩
    rw [h c hm] at he
    cases he
  · intro h d hd
    obtain ⟨c, hc, hd⟩ := List.mem_flatMap.1 hd
    by_cases hm : c.toNat ∈ markCodes
    · rw [capital_of_mark hm, List.mem_singleton] at hd
      rw [hd]
      exact h c hc
    · by_contra he
      rw [Bool.not_eq_false] at he
      exact (clear_capital hm).2 d hd (hline he)

theorem isPlain_upper_iff : IsPlain (upper t) ↔ IsPlain t := by
  rw [IsPlain, IsPlain, isOneLine_upper_iff, openBars, openBarsBehind_upper Iff.rfl, openBars]

end Capitals

end QueryFence.Text
