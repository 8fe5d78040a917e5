import QueryFence.Proofs.Json.Quoted
import QueryFence.Proofs.Spec.Grammar
import QueryFence.Proofs.Text.Numeral
import QueryFence.Proofs.Traffic.Provenance

/-!
The text that keys are made of tells the query and the limit of a block, and nothing else of it; so
does the key, as long as no digest stands for two texts.
-/

namespace QueryFence.Spec

/-- No two of these blocks have one digest for two texts. -/
def HaveOwnDigests (known : Spec → Prop) : Prop :=
  ∀ x y, known x → known y → x.cacheKey = y.cacheKey → x.keyText = y.keyText

variable {x y : Spec} {known : Spec → Prop}

def limitText (s : Spec) : Text :=
  match s.limit with
  | some limit => Text.ofNat limit.value
  | none => "null"

theorem keyText_eq (s : Spec) :
    s.keyText =
      '[' :: '"' :: (s.query.flatMap Json.escapeChar ++ '"' :: (", " ++ s.limitText ++ "]")) := by
  rw [keyText, limitText]
  cases s.limit <;> simp [Json.write, Json.writeAt, Json.writeItems, Json.writeText,
    Json.Layout.lineBreak, Json.Layout.between, Text.ofInt]

theorem ofNat_ne_null (n : Nat) : Text.ofNat n ≠ "null".toList := by
  intro h
  have hmem : 'n' ∈ Text.ofNat n := h ▸ List.mem_cons_self
  cases Text.isDigit_of_mem_ofNat hmem

theorem limitText_inj (h : x.limitText = y.limitText) : x.limit = y.limit := by
  rw [limitText, limitText] at h
  cases hx : x.limit with
  | none =>
    cases hy : y.limit with
    | none => rfl
    | some limit =>
      rw [hx, hy] at h
      exact absurd h.symm (ofNat_ne_null _)
  | some limit =>
    cases hy : y.limit with
    | none =>
      rw [hx, hy] at h
      exact absurd h (ofNat_ne_null _)
    | some other =>
      rw [hx, hy] at h
      have hvalue := congrArg Text.numeralValue h
      rw [Text.numeralValue_ofNat, Text.numeralValue_ofNat] at hvalue
      exact congrArg some (Limit.eq_of_value hvalue)

/-- The query is read back up to its closing quote, and what is left is the limit. -/
theorem keyText_inj (h : x.keyText = y.keyText) : x.query = y.query ∧ x.limit = y.limit := by
  rw [keyText_eq, keyText_eq] at h
  have hread := congrArg (Json.readString []) (List.cons.inj (List.cons.inj h).2).2
  rw [Json.readString_writeText, Json.readString_writeText] at hread
  obtain ⟨hquery, hrest⟩ := Prod.mk.inj (Except.ok.inj hread)
  exact ⟨hquery, limitText_inj (List.append_cancel_left (List.append_cancel_right hrest))⟩

theorem keyText_congr (hq : x.query = y.query) (hl : x.limit = y.limit) :
    x.keyText = y.keyText := by
  rw [keyText, keyText, hq, hl]

theorem HaveOwnDigests.haveOwnKeys (h : HaveOwnDigests known) : HaveOwnKeys known :=
  fun x y hx hy hkey => keyText_inj (h x y hx hy hkey)

end QueryFence.Spec
