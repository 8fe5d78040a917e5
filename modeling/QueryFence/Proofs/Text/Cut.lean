import QueryFence.Text.Basic

/-!
Texts that were cut short, with something missing at their end.
-/

namespace QueryFence.Text

/-- What is left of a text with something missing at its end. -/
def IsCut (part whole : Text) : Prop := ∃ missing, missing ≠ [] ∧ whole = part ++ missing

variable {p t : Text}

theorem isCut_nil (h : t ≠ []) : IsCut [] t := ⟨t, h, rfl⟩

theorem IsCut.length_lt (h : IsCut p t) : p.length < t.length := by
  obtain ⟨missing, hne, rfl⟩ := h
  have hpos := List.length_pos_iff.2 hne
  rw [List.length_append]
  omega

theorem IsCut.ne_nil (h : IsCut p t) : t ≠ [] := by
  rintro rfl
  exact absurd h.length_lt (Nat.not_lt_zero _)

theorem IsCut.isPrefix (h : IsCut p t) : p <+: t := by
  obtain ⟨missing, -, rfl⟩ := h
  exact List.prefix_append p missing

theorem IsCut.subset (h : IsCut p t) : p ⊆ t := h.isPrefix.subset

/-- A text of two parts is cut in the first or in the second. -/
theorem IsCut.append {a b : Text} (h : IsCut p (a ++ b)) :
    IsCut p a ∨ ∃ q, p = a ++ q ∧ IsCut q b := by
  obtain ⟨missing, hne, heq⟩ := h
  rcases List.append_eq_append_iff.1 heq with ⟨q, hp, hb⟩ | ⟨left, ha, hm⟩
  · exact .inr ⟨q, hp, missing, hne, hb⟩
  · by_cases hleft : left = []
    · subst hleft
      rw [List.append_nil] at ha
      rw [List.nil_append] at hm
      exact .inr ⟨[], by rw [ha, List.append_nil], isCut_nil (hm ▸ hne)⟩
    · exact .inl ⟨left, hleft, ha⟩

theorem IsCut.cons {c : Char} (h : IsCut p (c :: t)) : p = [] ∨ ∃ q, p = c :: q ∧ IsCut q t := by
  obtain ⟨missing, hne, heq⟩ := h
  cases p with
  | nil => exact .inl rfl
  | cons d q =>
    obtain ⟨rfl, ht⟩ := List.cons.inj heq
    exact .inr ⟨q, rfl, missing, hne, ht⟩

theorem IsCut.singleton {c : Char} (h : IsCut p [c]) : p = [] := by
  rcases h.cons with h | ⟨q, -, hq⟩
  · exact h
  · exact absurd rfl hq.ne_nil

/-- The head of what is left is that of the whole. -/
theorem IsCut.head {c : Char} {q : Text} (h : IsCut (c :: q) t) : ∃ more, t = c :: more := by
  obtain ⟨missing, -, heq⟩ := h
  exact ⟨q ++ missing, heq⟩

end QueryFence.Text
