import QueryFence.Proofs.Text.Lines
import QueryFence.Settings.Basic
import QueryFence.Text.Digit

/-!
The grammar that settings choose for search blocks: the symbol of compact columns, the pattern of
comments, and the ids of custom fields.
-/

namespace QueryFence.Settings

/-- A compact symbol that can stand before every word: it has no comma and no line boundary, and
starts with nothing that a word or white space starts with. -/
structure HasPlainSymbol (settings : Settings) : Prop where
  starts : ∃ c ∈ settings.compactSymbol.head?,
    Text.isBlank c = false ∧ c ≠ '$' ∧ c.isUpper = false
  no_comma : ',' ∉ settings.compactSymbol
  one_line : Text.IsOneLine settings.compactSymbol

/-- The grammar of the documentation: a hyphen before compact columns, comments behind a number sign,
and custom fields whose ids are digits. -/
structure HasUsualGrammar (settings : Settings) : Prop where
  symbol : settings.compactSymbol = "-"
  comments : settings.commentPattern = "^\\s*#"
  ids : ∀ field ∈ settings.customFields, ∀ c ∈ field.1, Text.isDigit c = true

theorem HasUsualGrammar.hasPlainSymbol {settings : Settings} (h : settings.HasUsualGrammar) :
    settings.HasPlainSymbol where
  starts := by
    rw [h.symbol]
    exact ⟨'-', rfl, by decide⟩
  no_comma := by
    rw [h.symbol]
    decide
  one_line := by
    rw [h.symbol]
    decide

/-- The settings where none is given. -/
def standard : Settings where
  accounts := []
  resultsLimit := 10
  searchColumns := defaultColumns
  customFields := []
  compactSymbol := "-"
  commentPattern := "^\\s*#"
  showColorBand := true
  cacheFolder := "cache"
  cacheHours := defaultHours
  requestTimeout := defaultTimeout
  maxRetries := 5

theorem check_nil : check [] = .good standard := rfl

theorem standard_hasUsualGrammar : standard.HasUsualGrammar :=
  ⟨rfl, rfl, fun _ h => absurd h List.not_mem_nil⟩

end QueryFence.Settings
