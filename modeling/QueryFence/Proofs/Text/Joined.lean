import Mathlib.Algebra.Ring.Nat
import QueryFence.Proofs.Text.Words

/-!
Texts put together with line feeds. Cut into lines again, each gives its own lines; so the texts can be
told from the whole when they are lines, and there are as many lines as texts only then.
-/

namespace QueryFence.Text

variable {t separator : Text} {parts others : List Text}

theorem subset_joinWith {part : Text} (h : part ∈ parts) : part ⊆ joinWith separator parts := by
  cases parts with
  | nil => cases h
  | cons first parts =>
    induction parts generalizing first with
    | nil =>
      rw [joinWith, List.intercalate_singleton, List.mem_singleton.1 h]
      exact List.Subset.refl _
    | cons next parts ih =>
      rw [joinWith, List.intercalate_cons_cons]
      rcases List.mem_cons.1 h with rfl | h
      · exact List.subset_append_of_subset_left _ (List.subset_append_left _ _)
      · exact List.subset_append_of_subset_right _ (ih next h)

theorem isOneLine_joinWith_iff (hs : IsOneLine separator) :
    IsOneLine (joinWith separator parts) ↔ ∀ part ∈ parts, IsOneLine part := by
  constructor
  · intro h part hp
    exact h.of_subset (subset_joinWith hp)
  · exact .joinWith hs

/-- One of the texts is told from the whole, if the others are known. -/
theorem joinWith_append_cons_inj {s t : Text} (before behind : List Text) :
    joinWith separator (before ++ s :: behind) = joinWith separator (before ++ t :: behind) ↔
      s = t := by
  induction before with
  | nil =>
    cases behind with
    | nil => simp [joinWith]
    | cons next behind => simp [joinWith, List.intercalate_cons_cons]
  | cons first before ih =>
    cases before with
    | nil => simpa [joinWith, List.intercalate_cons_cons] using ih
    | cons next before => simpa [joinWith, List.intercalate_cons_cons] using ih

/-- Lines are told from the whole, if it is known how many they are. -/
theorem joinWith_lineFeed_inj (hlength : parts.length = others.length)
    (hothers : ∀ part ∈ others, '\n' ∉ part)
    (h : joinWith "\n" parts = joinWith "\n" others) : parts = others := by
  cases parts with
  | nil => exact (List.length_eq_zero_iff.1 hlength.symm).symm
  | cons part parts =>
    cases others with
    | nil => cases hlength
    | cons other others =>
      have hzero : ((other :: others).map (List.count '\n')).sum = 0 :=
        List.sum_eq_zero_iff_forall_eq_nat.2
          (List.forall_mem_map.2 fun p hp => List.count_eq_zero.2 (hothers p hp))
      have hjoined : joinWith ['\n'] (part :: parts) = joinWith ['\n'] (other :: others) := h
      have hcount := congrArg (List.count '\n') hjoined
      rw [count_joinWith, count_joinWith, List.count_singleton_self, hzero, Nat.succ.inj hlength] at hcount
      have hsum : ((part :: parts).map (List.count '\n')).sum = 0 := by omega
      have hparts : ∀ p ∈ part :: parts, '\n' ∉ p := fun p hp =>
        List.count_eq_zero.1 (List.sum_eq_zero_iff_forall_eq_nat.1 hsum _ (List.mem_map_of_mem hp))
      have hcut := congrArg (List.splitOn '\n') hjoined
      rwa [joinWith, joinWith, List.splitOn_intercalate '\n' hparts (List.cons_ne_nil _ _),
        List.splitOn_intercalate '\n' hothers (List.cons_ne_nil _ _)] at hcut

/-- A text with something in its last line. -/
def IsUnended (t : Text) : Prop := ∃ c, t.getLast? = some c ∧ isLineEnd c = false

theorem IsUnended.ne_nil (h : IsUnended t) : t ≠ [] := by
  obtain ⟨c, hc, -⟩ := h
  rintro rfl
  cases hc

theorem IsUnended.of_cons {c : Char} (h : IsUnended (c :: t)) (hne : t ≠ []) : IsUnended t := by
  obtain ⟨d, hd, he⟩ := h
  obtain ⟨e, t, rfl⟩ := List.exists_cons_of_ne_nil hne
  exact ⟨d, List.getLast?_cons_cons ▸ hd, he⟩

theorem isUnended_append {s : Text} (h : IsUnended t) : IsUnended (s ++ t) := by
  obtain ⟨c, hc, he⟩ := h
  exact ⟨c, by rw [List.getLast?_append, hc]; rfl, he⟩

theorem IsUnended.of_isLineEnd {c : Char} (h : IsUnended (c :: t)) (hc : isLineEnd c = true) :
    IsUnended t := by
  refine h.of_cons ?_
  rintro rfl
  obtain ⟨d, hd, he⟩ := h
  rw [List.getLast?_singleton, Option.some_inj] at hd
  rw [← hd, hc] at he
  cases he

theorem lines_eq_nil_iff : lines t = [] ↔ t = [] := by
  constructor
  · intro h
    induction t using lines.induct with
    | case1 => rfl
    | case2 rest ih =>
      rw [lines] at h
      cases h
    | case3 c rest hr he ih =>
      rw [lines.eq_3 c _ hr, if_pos he] at h
      cases h
    | case4 c rest hr he hl ih =>
      rw [lines_cons_of_not_isLineEnd (Bool.eq_false_iff.2 he), hl] at h
      cases h
    | case5 c rest hr he first others hl ih =>
      rw [lines_cons_of_not_isLineEnd (Bool.eq_false_iff.2 he), hl] at h
      cases h
  · rintro rfl
    rfl

/-- A line feed behind a text that ends inside a line ends this line. -/
theorem IsUnended.lines_append (h : IsUnended t) (rest : Text) :
    lines (t ++ '\n' :: rest) = lines t ++ lines rest := by
  induction t using lines.induct with
  | case1 => exact absurd rfl h.ne_nil
  | case2 t ih =>
    have ht : IsUnended t := (h.of_isLineEnd (by decide)).of_isLineEnd (by decide)
    rw [List.cons_append, List.cons_append, lines, lines, ih ht, List.cons_append]
  | case3 c t hr he ih =>
    have ht : IsUnended t := h.of_isLineEnd he
    have hr' : ∀ more, c = '\r' → t ++ '\n' :: rest = '\n' :: more → False := by
      intro more hc heq
      obtain ⟨d, t, rfl⟩ := List.exists_cons_of_ne_nil ht.ne_nil
      obtain ⟨rfl, -⟩ := List.cons.inj heq
      exact hr t hc rfl
    rw [List.cons_append, lines.eq_3 c _ hr', lines.eq_3 c _ hr, if_pos he, if_pos he, ih ht,
      List.cons_append]
  | case4 c t hr he hl ih =>
    rw [lines_eq_nil_iff] at hl
    have hline : IsOneLine [c] := List.forall_mem_singleton.2 (Bool.eq_false_iff.2 he)
    rw [hl, lines_append_lineFeed hline, lines_cons_of_not_isLineEnd (Bool.eq_false_iff.2 he)]
    rfl
  | case5 c t hr he first others hl ih =>
    have hne : t ≠ [] := by
      rintro rfl
      cases hl
    rw [List.cons_append, lines_cons_of_not_isLineEnd (Bool.eq_false_iff.2 he),
      lines_cons_of_not_isLineEnd (Bool.eq_false_iff.2 he), ih (h.of_cons hne), hl]
    rfl

theorem lines_of_isOneLine (hne : t ≠ []) (h : IsOneLine t) : lines t = [t] := by
  induction t with
  | nil => exact absurd rfl hne
  | cons c t ih =>
    obtain ⟨hc, ht⟩ := List.forall_mem_cons.1 h
    rw [lines_cons_of_not_isLineEnd hc]
    cases t with
    | nil => rfl
    | cons d t => rw [ih (List.cons_ne_nil d t) ht]

theorem IsUnended.length_lines_pos (h : IsUnended t) : 0 < (lines t).length :=
  List.length_pos_iff.2 fun hnil => h.ne_nil (lines_eq_nil_iff.1 hnil)

/-- A text that ends inside a line is one line if it gives one. -/
theorem IsUnended.isOneLine (h : IsUnended t) (hlength : (lines t).length = 1) : IsOneLine t := by
  induction t using lines.induct with
  | case1 => exact absurd rfl h.ne_nil
  | case2 t ih =>
    have ht : IsUnended t := (h.of_isLineEnd (by decide)).of_isLineEnd (by decide)
    rw [lines] at hlength
    exact absurd (Nat.succ.inj hlength) ht.length_lines_pos.ne'
  | case3 c t hr he ih =>
    rw [lines.eq_3 c _ hr, if_pos he] at hlength
    exact absurd (Nat.succ.inj hlength) (h.of_isLineEnd he).length_lines_pos.ne'
  | case4 c t hr he hl ih =>
    rw [lines_eq_nil_iff.1 hl]
    exact List.forall_mem_singleton.2 (Bool.eq_false_iff.2 he)
  | case5 c t hr he first others hl ih =>
    have hne : t ≠ [] := by
      rintro rfl
      cases hl
    rw [lines_cons_of_not_isLineEnd (Bool.eq_false_iff.2 he), hl] at hlength
    refine List.forall_mem_cons.2 ⟨Bool.eq_false_iff.2 he, ih (h.of_cons hne) ?_⟩
    rw [hl]
    exact hlength

theorem lines_joinWith (h : ∀ part ∈ parts, IsUnended part) :
    lines (joinWith "\n" parts) = parts.flatMap lines := by
  cases parts with
  | nil => rfl
  | cons part parts =>
    induction parts generalizing part with
    | nil => rw [joinWith, List.intercalate_singleton, List.flatMap_singleton]
    | cons next parts ih =>
      obtain ⟨hpart, hparts⟩ := List.forall_mem_cons.1 h
      have hjoined : joinWith "\n" (part :: next :: parts) =
          part ++ '\n' :: joinWith "\n" (next :: parts) := by
        rw [joinWith, List.intercalate_cons_cons, List.append_assoc]
        rfl
      rw [hjoined, hpart.lines_append, ih next hparts, List.flatMap_cons (x := part)]

/-- Lines are found again in the whole. -/
theorem lines_joinWith_eq (h : ∀ part ∈ parts, IsUnended part)
    (hone : ∀ part ∈ parts, IsOneLine part) : lines (joinWith "\n" parts) = parts := by
  rw [lines_joinWith h]
  induction parts with
  | nil => rfl
  | cons part parts ih =>
    obtain ⟨hpart, hparts⟩ := List.forall_mem_cons.1 h
    obtain ⟨hone, hones⟩ := List.forall_mem_cons.1 hone
    rw [List.flatMap_cons, lines_of_isOneLine hpart.ne_nil hone, ih hparts hones, List.singleton_append]

theorem length_le_length_lines (h : ∀ part ∈ parts, IsUnended part) :
    parts.length ≤ (parts.flatMap lines).length := by
  induction parts with
  | nil => exact Nat.le_refl _
  | cons part parts ih =>
    obtain ⟨hpart, hparts⟩ := List.forall_mem_cons.1 h
    have hpos := hpart.length_lines_pos
    have hle := ih hparts
    rw [List.flatMap_cons, List.length_append, List.length_cons]
    omega

/-- Texts that end inside lines give as many lines as they are only if they are lines. -/
theorem isOneLine_of_length_lines (h : ∀ part ∈ parts, IsUnended part)
    (hlength : (lines (joinWith "\n" parts)).length = parts.length) :
    ∀ part ∈ parts, IsOneLine part := by
  rw [lines_joinWith h] at hlength
  induction parts with
  | nil => exact fun _ hm => absurd hm List.not_mem_nil
  | cons part parts ih =>
    obtain ⟨hpart, hparts⟩ := List.forall_mem_cons.1 h
    have hpos := hpart.length_lines_pos
    have hle := length_le_length_lines hparts
    rw [List.flatMap_cons, List.length_append, List.length_cons] at hlength
    exact List.forall_mem_cons.2 ⟨hpart.isOneLine (by omega), ih hparts (by omega)⟩

end QueryFence.Text
