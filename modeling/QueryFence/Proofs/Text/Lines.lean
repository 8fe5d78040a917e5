import QueryFence.Proofs.Text.Trim

/-!
Cutting a text into lines and at single characters, and putting the pieces together again.
-/

namespace QueryFence.Text

/-- A text without line boundaries. -/
def IsOneLine (t : Text) : Prop := ∀ c ∈ t, isLineEnd c = false

instance (t : Text) : Decidable (IsOneLine t) :=
  List.decidableBAll (isLineEnd · = false) t

theorem IsOneLine.of_subset {s t : Text} (h : IsOneLine t) (hs : s ⊆ t) : IsOneLine s :=
  fun c hc => h c (hs hc)

theorem isOneLine_of_isBlank {t : Text} (h : ∀ c ∈ t, isBlank c = false) : IsOneLine t := by
  intro c hc
  apply Bool.eq_false_iff.2
  intro he
  exact Bool.eq_false_iff.1 (h c hc) (isBlank_of_isLineEnd he)

theorem IsOneLine.append {s t : Text} (hs : IsOneLine s) (ht : IsOneLine t) :
    IsOneLine (s ++ t) := by
  intro c hc
  rcases List.mem_append.1 hc with hc | hc
  · exact hs c hc
  · exact ht c hc

theorem isOneLine_append_iff {s t : Text} : IsOneLine (s ++ t) ↔ IsOneLine s ∧ IsOneLine t :=
  List.forall_mem_append

theorem IsOneLine.joinWith {separator : Text} {parts : List Text} (hs : IsOneLine separator)
    (h : ∀ part ∈ parts, IsOneLine part) : IsOneLine (Text.joinWith separator parts) := by
  induction parts with
  | nil => exact fun c hc => absurd hc List.not_mem_nil
  | cons part parts ih =>
    have hp := h part List.mem_cons_self
    cases parts with
    | nil =>
      rw [Text.joinWith, List.intercalate_singleton]
      exact hp
    | cons next parts =>
      rw [Text.joinWith, List.intercalate_cons_cons]
      exact (hp.append hs).append (ih fun p hp => h p (List.mem_cons_of_mem part hp))

theorem lines_cons_of_isLineEnd {c : Char} {rest : Text} (h : isLineEnd c = true)
    (hr : c ≠ '\r') : lines (c :: rest) = [] :: lines rest := by
  rw [lines]
  · rw [if_pos h]
  · rintro - rfl
    exact fun _ => hr rfl

theorem lines_cons_of_not_isLineEnd {c : Char} {rest : Text} (h : isLineEnd c = false) :
    lines (c :: rest) = match lines rest with
      | [] => [[c]]
      | l :: ls => (c :: l) :: ls := by
  rw [lines]
  · exact if_neg (by rw [h]; exact Bool.false_ne_true)
  · rintro - rfl
    exact absurd h (by decide)

/-- A line feed ends the line before it. -/
theorem lines_append_lineFeed {l : Text} (h : IsOneLine l) (rest : Text) :
    lines (l ++ '\n' :: rest) = l :: lines rest := by
  induction l with
  | nil => exact lines_cons_of_isLineEnd (by decide) (by decide)
  | cons c l ih =>
    rw [List.cons_append, lines_cons_of_not_isLineEnd (h c List.mem_cons_self),
      ih fun d hd => h d (List.mem_cons_of_mem c hd)]

theorem isOneLine_of_mem_lines {l t : Text} (h : l ∈ lines t) : IsOneLine l := by
  induction t using lines.induct generalizing l with
  | case1 => cases h
  | case2 rest ih =>
    rw [lines] at h
    rcases List.mem_cons.1 h with rfl | h
    · exact fun c hc => absurd hc List.not_mem_nil
    · exact ih h
  | case3 c rest hr he ih =>
    rw [lines, if_pos he] at h
    · rcases List.mem_cons.1 h with rfl | h
      · exact fun c hc => absurd hc List.not_mem_nil
      · exact ih h
    · exact hr
  | case4 c rest hr he hl ih =>
    rw [lines_cons_of_not_isLineEnd (Bool.eq_false_iff.2 he), hl] at h
    rw [List.mem_singleton.1 h]
    exact fun d hd => List.mem_singleton.1 hd ▸ Bool.eq_false_iff.2 he
  | case5 c rest hr he first others hl ih =>
    rw [lines_cons_of_not_isLineEnd (Bool.eq_false_iff.2 he), hl] at h
    rcases List.mem_cons.1 h with rfl | h
    · intro d hd
      rcases List.mem_cons.1 hd with rfl | hd
      · exact Bool.eq_false_iff.2 he
      · exact ih (hl ▸ List.mem_cons_self) d hd
    · exact ih (hl ▸ List.mem_cons_of_mem _ h)

/-- A text that starts with a part free of a character and goes on with that character is cut
there. -/
theorem partition_append_cons {c : Char} {before : Text} (h : c ∉ before) (behind : Text) :
    partition c (before ++ c :: behind) = (before, behind) := by
  have hb : ∀ d ∈ before, (d != c) = true := fun d hd =>
    bne_iff_ne.2 fun he => h (he ▸ hd)
  rw [partition, List.takeWhile_append_of_pos hb, List.dropWhile_append_of_pos hb,
    List.takeWhile_cons_of_neg (by simp), List.dropWhile_cons_of_neg (by simp),
    List.append_nil, List.drop_one, List.tail_cons]

theorem partition_snd_suffix (c : Char) (t : Text) : (partition c t).2 <:+ t :=
  (List.drop_suffix _ _).trans (List.dropWhile_suffix _)

theorem not_mem_of_mem_splitOn {c : Char} {part t : Text} (h : part ∈ t.splitOn c) :
    c ∉ part ∧ part ⊆ t := by
  induction t generalizing part with
  | nil =>
    rw [List.splitOn_nil, List.mem_singleton] at h
    subst h
    exact ⟨List.not_mem_nil, List.Subset.refl _⟩
  | cons d t ih =>
    rw [List.splitOn_cons_eq_if_modifyHead] at h
    split at h
    · rcases List.mem_cons.1 h with rfl | h
      · exact ⟨List.not_mem_nil, List.nil_subset _⟩
      · exact ⟨(ih h).1, List.subset_cons_of_subset d (ih h).2⟩
    · next hd =>
      obtain ⟨first, others, hs⟩ := List.exists_cons_of_ne_nil (List.splitOn_ne_nil c t)
      rw [hs, List.modifyHead_cons] at h
      rcases List.mem_cons.1 h with rfl | h
      · obtain ⟨hc, hf⟩ := ih (hs ▸ List.mem_cons_self)
        refine ⟨?_, List.cons_subset_cons d hf⟩
        intro hm
        rcases List.mem_cons.1 hm with rfl | hm
        · simp at hd
        · exact hc hm
      · obtain ⟨hc, hp⟩ := ih (hs ▸ List.mem_cons_of_mem _ h)
        exact ⟨hc, List.subset_cons_of_subset d hp⟩

/-- Splitting at a comma undoes joining with a comma and a space, up to the spaces. -/
theorem splitOn_joinWith {part : Text} {parts : List Text} (hp : ',' ∉ part)
    (hs : ∀ p ∈ parts, ',' ∉ p) :
    (joinWith ", " (part :: parts)).splitOn ',' = part :: parts.map (' ' :: ·) := by
  induction parts generalizing part with
  | nil =>
    rw [joinWith, List.intercalate_singleton]
    exact List.splitOn_eq_singleton hp
  | cons next parts ih =>
    have hn : ',' ∉ ' ' :: next := by
      intro hm
      rcases List.mem_cons.1 hm with he | hm
      · exact absurd he (by decide)
      · exact hs next List.mem_cons_self hm
    have he : joinWith ", " (part :: next :: parts) =
        part ++ ',' :: joinWith ", " ((' ' :: next) :: parts) := by
      cases parts with
      | nil => simp [joinWith]
      | cons p parts => simp [joinWith]
    rw [he, List.splitOn_append_cons_self_of_not_mem hp,
      ih hn fun p hm => hs p (List.mem_cons_of_mem _ hm), List.map_cons]

theorem splitLast_eq {c : Char} {t : Text} :
    (∀ before behind, splitLast c t = (some before, behind) →
      t = before ++ c :: behind ∧ c ∉ behind) ∧
    ∀ behind, splitLast c t = (none, behind) → t = behind ∧ c ∉ behind := by
  induction t with
  | nil =>
    refine ⟨fun _ _ h => ?_, fun _ h => ?_⟩
    · cases h
    · cases h
      exact ⟨rfl, List.not_mem_nil⟩
  | cons d t ih =>
    rw [splitLast]
    rcases hs : splitLast c t with ⟨found, rest⟩
    cases found with
    | some front =>
      obtain ⟨ht, hc⟩ := ih.1 front rest hs
      refine ⟨fun before behind h => ?_, fun behind h => ?_⟩
      · cases h
        exact ⟨by rw [ht]; rfl, hc⟩
      · cases h
    | none =>
      obtain ⟨ht, hc⟩ := ih.2 rest hs
      dsimp only
      split
      · next hd =>
        refine ⟨fun before behind h => ?_, fun behind h => ?_⟩
        · cases h
          exact ⟨by rw [hd, ht]; rfl, hc⟩
        · cases h
      · next hd =>
        refine ⟨fun before behind h => ?_, fun behind h => ?_⟩
        · cases h
        · cases h
          refine ⟨by rw [ht], fun hm => ?_⟩
          rcases List.mem_cons.1 hm with he | hm
          · exact hd he.symm
          · exact hc hm

/-- A character that is not behind the last one of a kind is no such character. -/
theorem not_mem_splitLast_snd (c : Char) (t : Text) : c ∉ (splitLast c t).2 := by
  rcases hs : splitLast c t with ⟨found, behind⟩
  cases found with
  | some before => exact (splitLast_eq.1 before behind hs).2
  | none => exact (splitLast_eq.2 behind hs).2

theorem splitLast_of_not_mem {c : Char} {t : Text} (h : c ∉ t) : splitLast c t = (none, t) := by
  rcases hs : splitLast c t with ⟨found, behind⟩
  cases found with
  | some before =>
    rw [(splitLast_eq.1 before behind hs).1] at h
    exact absurd (List.mem_append_right _ List.mem_cons_self) h
  | none => rw [(splitLast_eq.2 behind hs).1]

theorem splitLast_append_cons {c : Char} {behind : Text} (h : c ∉ behind) (before : Text) :
    splitLast c (before ++ c :: behind) = (some before, behind) := by
  induction before with
  | nil =>
    rw [List.nil_append, splitLast, splitLast_of_not_mem h]
    exact if_pos rfl
  | cons d before ih => rw [List.cons_append, splitLast, ih]

/-- A joined text has no characters but those of its parts and of the separator. -/
theorem mem_joinWith {separator : Text} {parts : List Text} {c : Char}
    (h : c ∈ joinWith separator parts) : c ∈ separator ∨ ∃ part ∈ parts, c ∈ part := by
  cases parts with
  | nil => exact absurd h List.not_mem_nil
  | cons first parts =>
    induction parts generalizing first with
    | nil =>
      rw [joinWith, List.intercalate_singleton] at h
      exact .inr ⟨first, List.mem_singleton_self _, h⟩
    | cons second parts ih =>
      rw [joinWith, List.intercalate_cons_cons, List.append_assoc, List.mem_append,
        List.mem_append] at h
      rcases h with h | h | h
      · exact .inr ⟨first, List.mem_cons_self, h⟩
      · exact .inl h
      · rcases ih second h with h | ⟨part, hp, hc⟩
        · exact .inl h
        · exact .inr ⟨part, List.mem_cons_of_mem first hp, hc⟩

end QueryFence.Text
