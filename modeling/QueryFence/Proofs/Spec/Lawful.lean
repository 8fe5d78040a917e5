import QueryFence.Proofs.Spec.RoundTrip

/-!
The laws of the data model. Whatever block they come from, specifications that are read obey them: a list
has no columns, a limit is positive, custom fields are fields of the table, and query and paths of notes
stand on one line. The rule that tells comments plays no part in it.
-/

namespace QueryFence

theorem FieldKind.word_ne_customWord (kind : FieldKind) : kind.word ≠ Column.customWord := by
  cases kind <;> decide

namespace Spec

variable {settings : Settings} {s : Spec} {isComment : Text → Bool} {t : Text}

/-- The laws of specifications: of their parts among each other, of columns and the table of custom
fields, and of the texts that they hold. -/
structure IsLawful (settings : Settings) (s : Spec) : Prop where
  list : s.mode = .list → s.columns = []
  limit : ∀ limit ∈ s.limit, 1 ≤ limit.value
  custom : ∀ c ∈ s.columns, ∀ id, c.content = .custom id →
    id ≠ [] ∧ ∃ name, (id, name) ∈ settings.customFields
  field : ∀ c ∈ s.columns, ∀ kind, c.content = .field kind →
    c.kindWord ≠ Column.notesWord ∧ c.kindWord ≠ Column.customWord
  query_line : Text.IsOneLine s.query
  query_blank : s.query = [] ∨ ∃ d ∈ s.query, Text.isBlank d = false
  notes : ∀ c ∈ s.columns, ∀ path, c.content = .notes path →
    ',' ∉ path ∧ Text.IsOneLine path ∧ ∀ d ∈ path.getLast?, Text.isBlank d = false

theorem IsSound.isLawful (h : s.IsSound settings) (hlist : s.isListWithColumns = false) :
    s.IsLawful settings where
  list hmode := by
    by_contra hne
    exact isListWithColumns_eq_false_iff.1 hlist ⟨hmode, hne⟩
  limit limit _ := limit.positive
  custom c hc id hid := by
    obtain ⟨hne, hfound⟩ : (Content.custom id).IsSound settings.customFields := hid ▸ h.columns c hc
    exact ⟨hne, FieldTable.nameOf?_isSome_iff.1 hfound⟩
  field c _ kind hkind := by
    have hword : c.kindWord = kind.word := by rw [Column.kindWord, hkind]
    rw [hword]
    exact ⟨kind.word_ne.1, kind.word_ne_customWord⟩
  query_line := h.query_line
  query_blank := by
    refine h.query_blank.imp_right fun hb => ?_
    rw [Text.isBlankText, List.all_eq_false] at hb
    obtain ⟨d, hd, hblank⟩ := hb
    exact ⟨d, hd, Bool.eq_false_iff.2 hblank⟩
  notes c hc path hpath := by
    obtain ⟨hcomma, hline, htrim⟩ : (Content.notes path).IsSound settings.customFields :=
      hpath ▸ h.columns c hc
    exact ⟨hcomma, hline, Text.trimEnd_eq_self_iff.1 htrim⟩

/-- Every specification that is read is lawful, whatever the settings, and with whatever rule its
comments were left out. -/
theorem isLawful_of_read (h : read settings t = .ok s ∨ readUnder isComment settings t = .ok s) :
    s.IsLawful settings := by
  have hunder : ∃ isComment, readUnder isComment settings t = .ok s := by
    rcases h with h | h
    · exact exists_readUnder_of_read h
    · exact ⟨isComment, h⟩
  obtain ⟨_, hunder⟩ := hunder
  obtain ⟨hsound, hlist⟩ := readUnder_isSound hunder
  exact hsound.isLawful hlist

/-- A block of overridden lines under a compact symbol that is a letter, with a comment rule that is not
the usual one: notes at a path that starts with white space, a field by its name, and a query between
blanks. -/
theorem isLawful_of_overridden_lines :
    let settings : Settings := { Settings.standard with
      compactSymbol := "n", customFields := [("", .text "None"), ("7", .text "Team")] }
    let t : Text := "; all\ntype: list\r a \u2028TYPE: table\ncolumns: KEY\ncolumns: nKEY, nnotes. x ,n$Team"
    let isComment : Text → Bool := fun line => line.head? = some ';'
    let columns : List Column := [⟨true, .field .key⟩, ⟨true, .notes " x"⟩, ⟨true, .custom "7"⟩]
    let s : Spec := ⟨.table, " a ", none, columns⟩
    (read settings t = .ok s ∨ readUnder isComment settings t = .ok s) ∧ s.IsLawful settings := by
  intro settings t isComment columns s
  have h : readUnder isComment settings t = .ok s := by decide +kernel
  exact ⟨.inr h, isLawful_of_read (.inr h)⟩

end Spec

end QueryFence
