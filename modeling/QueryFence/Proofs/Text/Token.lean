import QueryFence.Proofs.Text.Capital
import QueryFence.Proofs.Text.Lines
import QueryFence.Proofs.Text.Numeral

/-!
Tokens: what stands between two commas of a line. They come back whole when they are written with
commas and spaces between them.
-/

namespace QueryFence.Text

/-- A text without white space at its ends, and not empty. -/
structure IsTight (t : Text) : Prop where
  starts : ∃ c ∈ t.head?, isBlank c = false
  trimEnd : trimEnd t = t

/-- A text that stands between two commas of a line, without the white space around it. -/
structure IsToken (t : Text) : Prop extends IsTight t where
  no_comma : ',' ∉ t
  one_line : IsOneLine t

namespace IsTight

variable {s t : Text}

theorem ne_nil (h : IsTight t) : t ≠ [] := by
  obtain ⟨c, hc, -⟩ := h.starts
  rintro rfl
  cases hc

theorem trim (h : IsTight t) : Text.trim t = t := by
  obtain ⟨c, hc, hb⟩ := h.starts
  have hs : trimStart t = t := by
    rw [trimStart_eq_self_iff]
    intro d hd
    rw [hc, Option.mem_some_iff] at hd
    rwa [← hd]
  rw [Text.trim, hs, h.trimEnd]

theorem isBlankText (h : IsTight t) : Text.isBlankText t = false := by
  obtain ⟨c, hc, hb⟩ := h.starts
  obtain ⟨rest, rfl⟩ := List.head?_eq_some_iff.1 hc
  exact isBlankText_cons hb rest

/-- The start of one text and the end of another decide about both together. -/
theorem append (hs : ∃ c ∈ s.head?, isBlank c = false) (hne : t ≠ [])
    (ht : Text.trimEnd t = t) : IsTight (s ++ t) where
  starts := by
    obtain ⟨c, hc, hb⟩ := hs
    exact ⟨c, by rw [List.head?_append, hc]; rfl, hb⟩
  trimEnd := by
    rw [trimEnd_eq_self_iff] at ht ⊢
    intro c hc
    rw [List.getLast?_append_of_ne_nil _ hne] at hc
    exact ht c hc

theorem joinWith {separator : Text} {parts : List Text} (hne : parts ≠ [])
    (h : ∀ part ∈ parts, IsTight part) : IsTight (Text.joinWith separator parts) := by
  induction parts with
  | nil => exact absurd rfl hne
  | cons part parts ih =>
    have hp := h part List.mem_cons_self
    cases parts with
    | nil =>
      rw [Text.joinWith, List.intercalate_singleton]
      exact hp
    | cons next parts =>
      have ht := ih (List.cons_ne_nil _ _) fun p hp => h p (List.mem_cons_of_mem part hp)
      rw [Text.joinWith, List.intercalate_cons_cons]
      refine .append ?_ ht.ne_nil ht.trimEnd
      obtain ⟨c, hc, hb⟩ := hp.starts
      exact ⟨c, by rw [List.head?_append, hc]; rfl, hb⟩

end IsTight

namespace IsToken

/-- A text of neither white space nor commas is a token. -/
theorem of_solid {t : Text} (hne : t ≠ []) (h : ∀ c ∈ t, Text.isBlank c = false ∧ c ≠ ',') :
    IsToken t where
  starts := by
    obtain ⟨c, rest, rfl⟩ := List.exists_cons_of_ne_nil hne
    exact ⟨c, rfl, (h c List.mem_cons_self).1⟩
  trimEnd := trimEnd_eq_self_iff.2 fun c hc => (h c (List.mem_of_getLast? hc)).1
  no_comma hc := (h _ hc).2 rfl
  one_line := isOneLine_of_isBlank fun c hc => (h c hc).1

theorem of_isCapitals {t : Text} (hne : t ≠ []) (h : IsCapitals t) : IsToken t := by
  refine .of_solid hne fun c hc => ⟨h.isBlank c hc, ?_⟩
  rintro rfl
  rcases h _ hc with hu | he
  · exact absurd hu (by decide)
  · exact absurd he (by decide)

end IsToken

/-- The digits of a number are a token. -/
theorem isToken_ofNat (n : Nat) : IsToken (ofNat n) := by
  refine .of_solid Nat.toDigits_ne_nil fun c hc => ?_
  have hd := isDigit_of_mem_ofNat hc
  constructor
  · exact isBlank_of_isDigit (isDigit_of_ascii hd)
  · rintro rfl
    exact absurd hd (by decide)

end QueryFence.Text
