import Mathlib.Data.List.DropRight
import QueryFence.Text.Blank

/-!
Trimming: what it leaves of a text, and which texts it leaves alone.
-/

namespace QueryFence.Text

theorem dropEndWhile_eq_rdropWhile (p : Char → Bool) (t : Text) :
    dropEndWhile p t = t.rdropWhile p := by
  induction t with
  | nil => rfl
  | cons c rest ih =>
    rw [dropEndWhile, ih, List.rdropWhile, List.rdropWhile, List.reverse_cons,
      List.dropWhile_append]
    cases h : rest.reverse.dropWhile p with
    | nil =>
      simp only [List.reverse_nil, List.isEmpty_nil, if_true, List.dropWhile_cons,
        List.dropWhile_nil]
      split <;> rfl
    | cons d more =>
      simp only [List.isEmpty_cons, Bool.false_eq_true, if_false, List.reverse_append,
        List.reverse_cons, List.reverse_nil, List.nil_append, List.singleton_append]
      split
      · next he => simp at he
      · rfl

theorem trimEnd_eq_rdropWhile (t : Text) : trimEnd t = t.rdropWhile isBlank :=
  dropEndWhile_eq_rdropWhile isBlank t

/-- A text keeps its end exactly when it has no white space there. -/
theorem trimEnd_eq_self_iff {t : Text} :
    trimEnd t = t ↔ ∀ c ∈ t.getLast?, isBlank c = false := by
  rw [trimEnd_eq_rdropWhile, List.rdropWhile_eq_self_iff]
  cases h : t.getLast? with
  | none => simp [List.getLast?_eq_none_iff.1 h]
  | some c =>
    obtain ⟨front, rfl⟩ := List.getLast?_eq_some_iff.1 h
    simp

theorem trimStart_eq_self_iff {t : Text} :
    trimStart t = t ↔ ∀ c ∈ t.head?, isBlank c = false := by
  rw [trimStart, List.dropWhile_eq_self_iff]
  cases t <;> simp

theorem isPrefix_trimEnd (t : Text) : trimEnd t <+: t :=
  trimEnd_eq_rdropWhile t ▸ List.rdropWhile_prefix isBlank t

theorem trimEnd_trimEnd (t : Text) : trimEnd (trimEnd t) = trimEnd t := by
  simp only [trimEnd_eq_rdropWhile, List.rdropWhile_idempotent]

theorem trimEnd_trim (t : Text) : trimEnd (trim t) = trim t := trimEnd_trimEnd _

/-- The start of a trimmed text is kept by trimming its end. -/
theorem trimStart_trim (t : Text) : trimStart (trim t) = trim t := by
  rw [trimStart_eq_self_iff]
  intro c hc
  obtain ⟨rest, he⟩ := isPrefix_trimEnd (trimStart t)
  obtain ⟨more, hm⟩ := List.head?_eq_some_iff.1 hc
  have hs : trimStart t = c :: (more ++ rest) := by
    rw [← he, show trimEnd (trimStart t) = trim t from rfl, hm, List.cons_append]
  have hb := trimStart_eq_self_iff.1 (List.dropWhile_idempotent (p := isBlank) t)
  exact hb c (by rw [show t.dropWhile isBlank = trimStart t from rfl, hs]; rfl)

theorem trim_trim (t : Text) : trim (trim t) = trim t := by
  rw [trim, trimStart_trim, trimEnd_trim]

theorem trim_sublist (t : Text) : (trim t).Sublist t :=
  (isPrefix_trimEnd _).sublist.trans (List.dropWhile_sublist _)

theorem mem_of_mem_trim {c : Char} {t : Text} (h : c ∈ trim t) : c ∈ t :=
  (trim_sublist t).subset h

theorem trim_cons_blank {c : Char} (h : isBlank c = true) (t : Text) :
    trim (c :: t) = trim t := by
  rw [trim, trimStart, List.dropWhile_cons_of_pos h]
  rfl

theorem isBlankText_cons_blank {c : Char} (h : isBlank c = true) (t : Text) :
    isBlankText (c :: t) = isBlankText t := by
  rw [isBlankText, List.all_cons, h, Bool.true_and]
  rfl

theorem trim_eq_nil_iff {t : Text} : trim t = [] ↔ isBlankText t = true := by
  rw [trim, trimEnd_eq_rdropWhile, List.rdropWhile_eq_nil_iff, isBlankText, List.all_eq_true]
  constructor
  · intro h c hc
    by_contra hb
    have hd : c ∈ trimStart t := by
      obtain ⟨front, back, rfl⟩ := List.append_of_mem hc
      rw [trimStart, List.dropWhile_append]
      split
      · rw [List.dropWhile_cons_of_neg hb]
        exact List.mem_cons_self
      · exact List.mem_append_right _ List.mem_cons_self
    exact hb (h c hd)
  · intro h c hc
    exact h c ((List.dropWhile_sublist _).subset hc)

theorem isBlankText_trim (t : Text) : isBlankText (trim t) = isBlankText t := by
  rw [Bool.eq_iff_iff, ← trim_eq_nil_iff, ← trim_eq_nil_iff, trim_trim]

theorem isBlankText_cons {c : Char} (h : isBlank c = false) (t : Text) :
    isBlankText (c :: t) = false := by
  rw [isBlankText, List.all_cons, h, Bool.false_and]

/-- A part at the end of a text without white space there has none there either. -/
theorem trimEnd_eq_self_of_suffix {part t : Text} (h : part <:+ t) (ht : trimEnd t = t) :
    trimEnd part = part := by
  rw [trimEnd_eq_self_iff] at ht ⊢
  intro c hc
  obtain ⟨front, rfl⟩ := h
  apply ht c
  rw [List.getLast?_append, hc]
  rfl

end QueryFence.Text
