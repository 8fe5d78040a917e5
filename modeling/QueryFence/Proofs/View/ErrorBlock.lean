import QueryFence.Proofs.Document.Format
import QueryFence.Proofs.Rounds.Ending
import QueryFence.Proofs.Spec.Lawful
import QueryFence.Proofs.View.Cells

/-!
The block under an error. Whatever the message says, the shown text holds no fence but that of the block
below it, and that fence runs to the end of the text; so the block can be rendered again from a document
that the error was put in.
-/

namespace QueryFence

open QueryFence.Document (IsEnded IsScanned isOpening isClosing segments textOf blocks)
open QueryFence.Text (IsOneLine)

variable {settings : Settings} {spec : Spec} {message : Json} {isComment : Text → Bool}
  {source : Text}

/-- Settings that put no line boundary into canonical text. -/
structure Settings.IsLevel (settings : Settings) : Prop where
  symbol : IsOneLine settings.compactSymbol
  ids : ∀ field ∈ settings.customFields, IsOneLine field.1

theorem FieldKind.isOneLine_word (kind : FieldKind) : IsOneLine kind.word :=
  Text.isOneLine_of_isBlank kind.word_isCapitals.isBlank

theorem Content.IsSound.isOneLine_write {content : Content} (hs : settings.IsLevel)
    (h : content.IsSound settings.customFields) : IsOneLine content.write := by
  cases content with
  | field kind => exact FieldKind.isOneLine_word kind
  | notes path =>
    obtain ⟨-, hpath, -⟩ := h
    have hword : IsOneLine Column.notesWord := by decide
    rw [Content.write]
    split
    · exact hword
    · apply hword.append
      exact List.forall_mem_cons.2 ⟨by decide, hpath⟩
  | custom id =>
    obtain ⟨name, hname⟩ := FieldTable.nameOf?_isSome_iff.1 h.2
    exact List.forall_mem_cons.2 ⟨by decide, hs.ids _ hname⟩

theorem Column.isOneLine_write {column : Column} (hs : settings.IsLevel)
    (h : column.content.IsSound settings.customFields) : IsOneLine (column.write settings) := by
  apply IsOneLine.append
  · split
    · exact hs.symbol
    · intro c hc
      exact absurd hc List.not_mem_nil
  · exact h.isOneLine_write hs

namespace Spec

/-- The entries of what was read are lines of their own, however columns are marked. -/
theorem IsSound.isOneLine_entryText (hs : settings.IsLevel) (h : spec.IsSound settings) :
    ∀ entry ∈ spec.entries settings, IsOneLine (entryText entry) := by
  have hkeys : ∀ key ∈ keys, IsOneLine (key ++ ": ") := by decide
  have hvalues : ∀ entry ∈ spec.entries settings, IsOneLine entry.2 := by
    apply forall_mem_entries
    · exact spec.mode.isToken_word.one_line
    · intro _
      exact h.query_line
    · intro limit _
      exact (Text.isToken_ofNat limit.value).one_line
    · intro _
      apply IsOneLine.joinWith (by decide)
      intro part hp
      obtain ⟨column, hc, rfl⟩ := List.mem_map.1 hp
      exact Column.isOneLine_write hs (h.columns column hc)
  intro entry he
  exact (hkeys entry.1 (key_mem_keys entry he)).append (hvalues entry he)

theorem isInside_write_of_read (hs : settings.IsLevel)
    (h : readUnder isComment settings source = .ok spec) :
    Document.IsInside (spec.write settings) := by
  apply isInside_write_of_isOneLine
  exact (readUnder_isSound h).1.isOneLine_entryText hs

end Spec

namespace Document

/-- The line above a message. -/
def errorTitle : Text := "> [!error] Search error\n"

/-- The line of a message, without its line feed. -/
def errorLine (message : Json) : Text := "> " ++ Cell.escapeValue message

theorem quotation_eq : ("> [!error] Search error\n> " : Text) = errorTitle ++ "> " := by decide

theorem errorText_none : errorText settings message none = errorTitle ++ errorLine message := by
  unfold errorText
  dsimp only
  rw [List.append_nil, quotation_eq, List.append_assoc, errorLine]

theorem errorText_some : errorText settings message (some spec) =
    errorTitle ++ errorLine message ++ ("\n\n" ++ spec.fence settings) := by
  unfold errorText
  dsimp only
  rw [quotation_eq, List.append_assoc errorTitle, errorLine]

theorem isPrefix_errorLine : "> ".toList <+: errorLine message := List.prefix_append _ _

theorem isEnded_errorTitle : IsEnded errorTitle :=
  ⟨"> [!error] Search error", by decide, rfl⟩

theorem not_mem_errorLine : '\n' ∉ errorLine message := by
  intro hmem
  have hline : IsOneLine (errorLine message) := by
    apply IsOneLine.append (by decide)
    exact (Cell.isPlain_escapeValue message).1
  exact absurd (hline _ hmem) (by decide)

/-- No line that starts as a quotation opens a fence. -/
theorem isOpening_of_quotation {l : Text} (h : "> ".toList <+: l) : isOpening l = false := by
  obtain ⟨rest, rfl⟩ := h
  rfl

/-- A message alone is two lines outside any fence. -/
theorem segments_errorText_none : segments (errorText settings message none) =
    [.plain errorTitle, .plain (errorLine message)] := by
  have htext : errorText settings message none =
      textOf [.plain errorTitle, .plain (errorLine message)] := by
    rw [textOf_cons, textOf_singleton, errorText_none]
    rfl
  rw [htext]
  apply segments_textOf
  apply IsScanned.line isEnded_errorTitle (isOpening_of_quotation ⟨_, rfl⟩)
  exact .lastLine (List.append_ne_nil_of_left_ne_nil (by decide) _) not_mem_errorLine

/-- Above a fence a message is one line more, which is empty. -/
theorem segments_errorText_some (h : IsInside (spec.write settings)) :
    segments (errorText settings message (some spec)) =
      [.plain errorTitle, .plain (errorLine message ++ ['\n']), .plain ['\n'],
        .fence (fenceMark ++ fenceLanguage ++ "\n") (spec.write settings) fenceMark] := by
  have hopens : isOpening (fenceMark ++ fenceLanguage ++ "\n") = true := by decide
  have hcloses : isClosing fenceMark = true := by decide
  have hone : '\n' ∉ fenceMark := by decide
  have hproper : Fence.IsProper
      ⟨fenceMark ++ fenceLanguage ++ "\n", spec.write settings, fenceMark⟩ :=
    ⟨hopens, h, hcloses, hone⟩
  have htext : errorText settings message (some spec) = textOf [.plain errorTitle,
      .plain (errorLine message ++ ['\n']), .plain ['\n'],
      Fence.segment ⟨fenceMark ++ fenceLanguage ++ "\n", spec.write settings, fenceMark⟩] := by
    rw [textOf_cons, textOf_cons, textOf_cons, textOf_singleton, errorText_some]
    simp only [Segment.text, Fence.segment, Spec.fence, List.append_assoc]
    rfl
  rw [htext]
  apply segments_textOf
  apply IsScanned.line isEnded_errorTitle (isOpening_of_quotation ⟨_, rfl⟩)
  apply IsScanned.line ⟨errorLine message, not_mem_errorLine, rfl⟩
    (isOpening_of_quotation (isPrefix_errorLine.trans (List.prefix_append _ _)))
  apply IsScanned.line ⟨[], List.not_mem_nil, rfl⟩ (by decide)
  exact .lastFence hproper

theorem blocks_errorText_none : blocks (errorText settings message none) = [] := by
  rw [blocks, segments_errorText_none]
  rfl

theorem blocks_errorText_some (h : IsInside (spec.write settings)) :
    blocks (errorText settings message (some spec)) =
      [⟨(errorText settings message (some spec)).length - (spec.fence settings).length,
        (errorText settings message (some spec)).length, spec.write settings⟩] := by
  have hlength : (errorText settings message (some spec)).length =
      errorTitle.length + (errorLine message).length + 2 + (spec.fence settings).length := by
    rw [errorText_some, List.length_append, List.length_append, List.length_append, Nat.add_assoc _ 2]
    rfl
  have hfence : (Segment.fence (fenceMark ++ fenceLanguage ++ "\n") (spec.write settings)
      fenceMark).text = spec.fence settings := rfl
  rw [blocks, segments_errorText_some h]
  simp only [blocksFrom, hfence, hlength, List.length_append, List.length_singleton,
    Nat.zero_add, Nat.add_sub_cancel]
  rfl

end Document

namespace Cycle

variable {σ : Type} {hub : Hub} {s : Scene σ}

theorem shown_showError (hopen : s.display.closed = false) (spec : Option Spec) :
    shown ((showError hub message spec).run.run s) = .ok (errorText hub.settings message spec) :=
  shown_eq_ok_iff.2 ⟨⟨(), rfl⟩, put_output hopen _ _⟩

/-- An error over a block that was read, by whatever rule for comments, shows one search block, which is
its canonical fence at the very end; an error without a block shows none. -/
theorem showsOneBlock_of_read (hs : hub.settings.IsLevel)
    (h : Spec.read hub.settings source = .ok spec ∨
      Spec.readUnder isComment hub.settings source = .ok spec)
    (hopen : s.display.closed = false) (message : Text) :
    (∃ t, shown ((showError hub (.text message) (some spec)).run.run s) = .ok t ∧
      blocks t = [⟨t.length - (spec.fence hub.settings).length, t.length,
        spec.write hub.settings⟩]) ∧
    ∃ t, shown ((showError hub (.text message) none).run.run s) = .ok t ∧ blocks t = [] := by
  have hunder : ∃ isComment, Spec.readUnder isComment hub.settings source = .ok spec := by
    rcases h with h | h
    · exact Spec.exists_readUnder_of_read h
    · exact ⟨isComment, h⟩
  obtain ⟨_, hunder⟩ := hunder
  have hinside := Spec.isInside_write_of_read hs hunder
  constructor
  · exact ⟨_, shown_showError hopen _, Document.blocks_errorText_some hinside⟩
  · exact ⟨_, shown_showError hopen none, Document.blocks_errorText_none⟩

/-- A message that would close the fence and open another one, over a block whose query and whose mark of
compact columns are fence marks themselves. -/
theorem showsOneBlock_of_fence_marks :
    let hub : Hub := ⟨{ Settings.standard with
      compactSymbol := "\x60\x60\x60", customFields := [("a \x60\x60\x60", .text "Team")] }, []⟩
    let source : Text := "; all\nquery: \x60\x60\x60\ncolumns: \x60\x60\x60key, $Team"
    let isComment : Text → Bool := fun line => line.head? = some ';'
    let message : Text := "a\n\x60\x60\x60\n\u2028\x60\x60\x60jira-search\nquery: b\n\x60\x60\x60"
    let spec : Spec := ⟨.table, "\x60\x60\x60", none,
      [⟨true, .field .key⟩, ⟨false, .custom "a \x60\x60\x60"⟩]⟩
    let scene : Scene Unit := ⟨.blank, ()⟩
    (hub.settings.IsLevel ∧ (Spec.read hub.settings source = .ok spec ∨
        Spec.readUnder isComment hub.settings source = .ok spec) ∧
      scene.display.closed = false) ∧
    (∃ t, shown ((showError hub (.text message) (some spec)).run.run scene) = .ok t ∧
      blocks t = [⟨t.length - (spec.fence hub.settings).length, t.length,
        spec.write hub.settings⟩]) ∧
    ∃ t, shown ((showError hub (.text message) none).run.run scene) = .ok t ∧ blocks t = [] := by
  intro hub source isComment message spec scene
  have hids : ∀ field ∈ hub.settings.customFields, IsOneLine field.1 := by decide
  have hs : hub.settings.IsLevel := ⟨by decide, hids⟩
  have hread : Spec.readUnder isComment hub.settings source = .ok spec := by decide +kernel
  exact ⟨⟨hs, .inr hread, rfl⟩, showsOneBlock_of_read hs (.inr hread) rfl message⟩

end Cycle

end QueryFence
