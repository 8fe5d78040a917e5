import QueryFence.Proofs.Settings.Fields
import QueryFence.Proofs.Settings.Grammar
import QueryFence.Proofs.Text.Token
import QueryFence.Spec.Reader
import QueryFence.Spec.Writer

/-!
Columns as words of a block: a column is read back from the word that is written for it, and whatever
is read from a line can be written.
-/

namespace QueryFence

/-- What a column may show so that it can be written in a block: notes at a path that stands between
two commas of one line, or a custom field that is selected by an id of the table. -/
def Content.IsWritable (table : FieldTable) : Content → Prop
  | .field _ => True
  | .notes path => ',' ∉ path ∧ Text.IsOneLine path ∧ Text.trimEnd path = path
  | .custom id => Text.isDigits id = true ∧ (table.nameOf? id).isSome = true

instance (table : FieldTable) : (c : Content) → Decidable (c.IsWritable table)
  | .field _ => .isTrue trivial
  | .notes path =>
    inferInstanceAs (Decidable (',' ∉ path ∧ Text.IsOneLine path ∧ Text.trimEnd path = path))
  | .custom id =>
    inferInstanceAs (Decidable (Text.isDigits id = true ∧ (table.nameOf? id).isSome = true))

namespace FieldKind

theorem word_isCapitals (kind : FieldKind) : Text.IsCapitals kind.word := by
  cases kind <;> decide

theorem mem_all (kind : FieldKind) : kind ∈ all := by
  cases kind <;> decide

theorem ofWord?_word (kind : FieldKind) : ofWord? kind.word = some kind := by
  have hall : ∀ kind ∈ all, ofWord? kind.word = some kind := by decide +kernel
  exact hall kind (mem_all kind)

theorem word_ne (kind : FieldKind) :
    kind.word ≠ Column.notesWord ∧ (Column.notesWord ++ ".").isPrefixOf kind.word = false ∧
      ∃ c ∈ kind.word.head?, c.isUpper = true := by
  cases kind <;> exact ⟨by decide, by decide, _, rfl, by decide⟩

end FieldKind

theorem Column.notesWord_isCapitals : Text.IsCapitals notesWord := by decide

namespace Content

variable {table : FieldTable} {c : Content}

/-- Every word for content starts with a capital or with the sign of custom fields. -/
theorem write_starts (c : Content) : ∃ d ∈ c.write.head?, d = '$' ∨ d.isUpper = true := by
  cases c with
  | field kind =>
    obtain ⟨d, hd, hu⟩ := kind.word_ne.2.2
    exact ⟨d, hd, .inr hu⟩
  | notes path =>
    rw [write]
    split
    · exact ⟨'N', rfl, .inr (by decide)⟩
    · exact ⟨'N', rfl, .inr (by decide)⟩
  | custom id => exact ⟨'$', rfl, .inl rfl⟩

theorem write_isToken (h : c.IsWritable table) : Text.IsToken c.write := by
  cases c with
  | field kind =>
    refine .of_isCapitals ?_ kind.word_isCapitals
    obtain ⟨d, hd, -⟩ := kind.word_ne.2.2
    exact fun he => absurd (he ▸ hd : d ∈ ([] : Text).head?) (by simp)
  | notes path =>
    obtain ⟨hc, hl, ht⟩ := h
    rw [write]
    split
    · exact .of_isCapitals (by decide) Column.notesWord_isCapitals
    · next hne =>
      rw [List.append_cons]
      refine ⟨.append ⟨'N', rfl, by decide⟩ (by simpa using hne) ht, ?_, ?_⟩
      · intro hm
        rcases List.mem_append.1 hm with hm | hm
        · exact absurd hm (by decide)
        · exact hc hm
      · exact Text.IsOneLine.append (by decide) hl
  | custom id =>
    rw [write]
    obtain ⟨hd, -⟩ := h
    rw [Text.isDigits, Bool.and_eq_true, List.all_eq_true] at hd
    refine .of_solid (List.cons_ne_nil _ _) fun c hc => ?_
    rcases List.mem_cons.1 hc with rfl | hc
    · exact ⟨by decide, by decide⟩
    · refine ⟨Text.isBlank_of_isDigit (hd.2 c hc), ?_⟩
      rintro rfl
      exact absurd (hd.2 _ hc) (by decide)

end Content

namespace Column

variable {settings : Settings}

theorem isPrefixOf_upper_notes (path : Text) :
    (notesWord ++ ".").isPrefixOf (Text.upper (notesWord ++ '.' :: path)) = true := by
  rw [List.append_cons, Text.upper_append, List.isPrefixOf_iff_prefix]
  exact ⟨_, rfl⟩

theorem resolve_of_isDigits {table : FieldTable} {id : Text} (hd : Text.isDigits id = true)
    (hn : (table.nameOf? id).isSome = true) : resolve table id = .ok id := by
  rw [resolve, if_pos hd, if_pos hn]

theorem readContent_notes {token : Text}
    (h : (notesWord ++ ".").isPrefixOf (Text.upper token) = true) :
    readContent settings token = .ok (.notes (Text.partition '.' token).2) := by
  unfold readContent
  exact if_pos h

theorem readContent_custom (selector : Text) :
    readContent settings ('$' :: selector) = match resolve settings.customFields selector with
      | .ok id => .ok (.custom id)
      | .error failure => .error failure := by
  have hp : (notesWord ++ ".").isPrefixOf (Text.upper ('$' :: selector)) = false := rfl
  rw [readContent, hp]
  exact if_neg Bool.false_ne_true

theorem readContent_kind {token : Text} {kind : FieldKind} (hd : token.head? ≠ some '$')
    (hp : (notesWord ++ ".").isPrefixOf (Text.upper token) = false)
    (hn : Text.upper token ≠ notesWord) (hk : FieldKind.ofWord? (Text.upper token) = some kind) :
    readContent settings token = .ok (.field kind) := by
  unfold readContent
  simp only [hp, Bool.false_eq_true, if_false]
  split
  · exact absurd rfl hd
  · rw [if_neg hn, hk]

/-- The word for what a column shows is read as just that. -/
theorem readContent_write {c : Content} (h : c.IsWritable settings.customFields) :
    readContent settings c.write = .ok c := by
  cases c with
  | field kind =>
    obtain ⟨hw, hp, d, hd, hu⟩ := kind.word_ne
    have hc : Text.upper kind.word = kind.word := kind.word_isCapitals.upper
    refine readContent_kind ?_ (hc ▸ hp) (hc ▸ hw) (hc.symm ▸ kind.ofWord?_word)
    rw [Content.write, Option.mem_def.1 hd]
    rintro he
    cases he
    exact absurd hu (by decide)
  | notes path =>
    rw [Content.write]
    split
    · next he =>
      rw [List.isEmpty_iff.1 he]
      rfl
    · rw [readContent_notes (isPrefixOf_upper_notes path),
        Text.partition_append_cons (by decide)]
  | custom id =>
    rw [Content.write, readContent_custom, resolve_of_isDigits h.1 h.2]

theorem write_isToken {c : Column} (hs : settings.HasPlainSymbol)
    (h : c.content.IsWritable settings.customFields) : Text.IsToken (c.write settings) := by
  have ht := Content.write_isToken h
  rw [write]
  split
  · obtain ⟨d, hd, hb, -⟩ := hs.starts
    refine ⟨.append ⟨d, hd, hb⟩ ht.ne_nil ht.trimEnd, ?_, hs.one_line.append ht.one_line⟩
    exact fun hm => (List.mem_append.1 hm).elim hs.no_comma ht.no_comma
  · exact ht

/-- The compact symbol is never what a word for content starts with. -/
theorem not_isPrefixOf_write (hs : settings.HasPlainSymbol) (c : Content) :
    settings.compactSymbol.isPrefixOf c.write = false := by
  obtain ⟨d, hd, -, hne, hu⟩ := hs.starts
  obtain ⟨e, he, hw⟩ := c.write_starts
  obtain ⟨symbol, hs'⟩ := List.head?_eq_some_iff.1 hd
  obtain ⟨rest, hr⟩ := List.head?_eq_some_iff.1 he
  rw [hs', hr, List.isPrefixOf, Bool.and_eq_false_iff, beq_eq_false_iff_ne]
  refine .inl fun h => ?_
  subst h
  rcases hw with hw | hw
  · exact hne hw
  · exact absurd hw (by rw [hu]; exact Bool.false_ne_true)

/-- A column is read back from its word. -/
theorem read_write {c : Column} (hs : settings.HasPlainSymbol)
    (h : c.content.IsWritable settings.customFields) : read settings (c.write settings) = .ok c := by
  obtain ⟨compact, content⟩ := c
  rw [read, (write_isToken hs h).trim]
  cases compact with
  | false =>
    rw [write, if_neg Bool.false_ne_true, List.nil_append, not_isPrefixOf_write hs,
      if_neg Bool.false_ne_true, readContent_write h]
  | true =>
    rw [write, if_pos rfl, List.isPrefixOf_iff_prefix.2 (List.prefix_append _ _), if_pos rfl,
      List.drop_left, readContent_write h]

theorem read_cons_blank {c : Char} (hc : Text.isBlank c = true) (token : Text) :
    read settings (c :: token) = read settings token := by
  rw [read, read, Text.trim_cons_blank hc]

/-- The tokens of written columns are their words, all but the first behind a space. -/
theorem tokens_joinWith {first : Text} {others : List Text} (hf : Text.IsToken first)
    (ho : ∀ word ∈ others, Text.IsToken word) :
    tokens (Text.joinWith ", " (first :: others)) = first :: others.map (' ' :: ·) := by
  rw [tokens, Text.splitOn_joinWith hf.no_comma fun word hw => (ho word hw).no_comma,
    List.filter_eq_self]
  intro token ht
  rcases List.mem_cons.1 ht with rfl | ht
  · rw [hf.isBlankText]
    rfl
  · obtain ⟨word, hw, rfl⟩ := List.mem_map.1 ht
    rw [Text.isBlankText_cons_blank (by decide), (ho word hw).isBlankText]
    rfl

/-- Columns are read back from their words with commas and spaces between them. -/
theorem readList_write {columns : List Column} (hs : settings.HasPlainSymbol)
    (h : ∀ c ∈ columns, c.content.IsWritable settings.customFields) (hne : columns ≠ []) :
    readList settings (Text.joinWith ", " (columns.map (write settings))) = .ok columns := by
  obtain ⟨first, others, rfl⟩ := List.exists_cons_of_ne_nil hne
  have hf := h first List.mem_cons_self
  have ho : ∀ c ∈ others, c.content.IsWritable settings.customFields := fun c hc =>
    h c (List.mem_cons_of_mem first hc)
  have ht : ∀ word ∈ others.map (write settings), Text.IsToken word := by
    intro word hw
    obtain ⟨c, hc, rfl⟩ := List.mem_map.1 hw
    exact write_isToken hs (ho c hc)
  rw [readList, List.map_cons, tokens_joinWith (write_isToken hs hf) ht, List.map_map,
    List.mapM_cons, read_write hs hf, Steps.mapM_map_eq_ok]
  · rfl
  · intro c hc
    exact (read_cons_blank (by decide) _).trans (read_write hs (ho c hc))

end Column

/-- What a column shows that was read from one line: notes at such a path, or a custom field of the
table. -/
def Content.IsSound (table : FieldTable) : Content → Prop
  | .field _ => True
  | .notes path => ',' ∉ path ∧ Text.IsOneLine path ∧ Text.trimEnd path = path
  | .custom id => id ≠ [] ∧ (table.nameOf? id).isSome = true

/-- Where all ids are digits, what was read can be written. -/
theorem Content.IsSound.isWritable {table : FieldTable} {c : Content} (h : c.IsSound table)
    (hd : ∀ field ∈ table, ∀ d ∈ field.1, Text.isDigit d = true) : c.IsWritable table := by
  cases c with
  | field kind => trivial
  | notes path => exact h
  | custom id =>
    obtain ⟨name, hm⟩ := FieldTable.nameOf?_isSome_iff.1 h.2
    refine ⟨?_, h.2⟩
    rw [Text.isDigits, Bool.and_eq_true, Bool.not_eq_true', List.isEmpty_eq_false_iff,
      List.all_eq_true]
    exact ⟨h.1, hd _ hm⟩

namespace Column

variable {settings : Settings}

theorem resolve_isSound {table : FieldTable} {selector id : Text}
    (h : resolve table selector = .ok id) : (Content.custom id).IsSound table := by
  rw [resolve] at h
  split at h
  · next hd =>
    split at h
    · next hn =>
      cases h
      rw [Text.isDigits, Bool.and_eq_true, Bool.not_eq_true', List.isEmpty_eq_false_iff] at hd
      exact ⟨hd.1, hn⟩
    · cases h
  · split at h
    · cases h
    · next found hf =>
      split at h
      · cases h
      · next hne =>
        cases h
        exact ⟨fun he => hne (List.isEmpty_iff.2 he),
          FieldTable.nameOf?_isSome_iff.2 (FieldTable.exists_mem_of_idOf? hf)⟩
    · cases h

/-- What is read from a token that has neither commas nor line boundaries nor white space at its end
can stand between commas again. -/
theorem readContent_isSound {token : Text} {c : Content} (hc : ',' ∉ token)
    (hl : Text.IsOneLine token) (ht : Text.trimEnd token = token)
    (h : readContent settings token = .ok c) : c.IsSound settings.customFields := by
  unfold readContent at h
  dsimp only at h
  split at h
  · cases h
    have hs := Text.partition_snd_suffix '.' token
    exact ⟨fun hm => hc (hs.subset hm), hl.of_subset hs.subset,
      Text.trimEnd_eq_self_of_suffix hs ht⟩
  · split at h
    · next selector _ =>
      cases hr : resolve settings.customFields selector with
      | error failure =>
        rw [hr] at h
        cases h
      | ok id =>
        rw [hr] at h
        cases h
        exact resolve_isSound hr
    · split at h
      · cases h
        exact ⟨List.not_mem_nil, fun d hd => absurd hd List.not_mem_nil, rfl⟩
      · split at h
        · cases h
          trivial
        · cases h

theorem read_isSound {token : Text} {c : Column} (hc : ',' ∉ token) (hl : Text.IsOneLine token)
    (h : read settings token = .ok c) : c.content.IsSound settings.customFields := by
  rw [read] at h
  have hb : ∀ symbol : Text, (if symbol.isPrefixOf (Text.trim token)
      then (Text.trim token).drop symbol.length else Text.trim token) <:+ Text.trim token := by
    intro symbol
    split
    · exact List.drop_suffix _ _
    · exact List.suffix_refl _
  have hs := hb settings.compactSymbol
  split at h
  · next content hr =>
    cases h
    refine readContent_isSound ?_ ?_ ?_ hr
    · exact fun hm => hc (Text.mem_of_mem_trim (hs.subset hm))
    · exact hl.of_subset fun d hd => Text.mem_of_mem_trim (hs.subset hd)
    · exact Text.trimEnd_eq_self_of_suffix hs (Text.trimEnd_trim token)
  · cases h

theorem readList_isSound {t : Text} {columns : List Column} (hl : Text.IsOneLine t)
    (h : readList settings t = .ok columns) :
    ∀ c ∈ columns, c.content.IsSound settings.customFields := by
  intro c hc
  obtain ⟨token, ht, hr⟩ := Steps.exists_of_mem_mapM h c hc
  obtain ⟨hn, hs⟩ := Text.not_mem_of_mem_splitOn (List.mem_of_mem_filter ht)
  exact read_isSound hn (hl.of_subset hs) hr

end Column

end QueryFence
