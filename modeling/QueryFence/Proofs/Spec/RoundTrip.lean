import QueryFence.Proofs.Spec.Column

/-!
Writing a specification and reading it again. The canonical text is a list of entries, one a line, and
each of them sets what it was written for; only a query may lose the white space at its ends.
-/

namespace QueryFence

/-- The pattern of lines that start with a number sign. -/
def Pattern.hashComment : Pattern := [.start, .many .blank, .one (.char '#')]

namespace Pattern

theorem read_hashComment : read "^\\s*#" = some hashComment := by decide

theorem findFrom_start_false (p : Pattern) (t : Text) : findFrom (.start :: p) false t = false := by
  induction t with
  | nil => rfl
  | cons c t ih =>
    rw [findFrom, ih, meets, Bool.false_and]
    rfl

/-- A line that starts with something else is no comment. -/
theorem find_hashComment {c : Char} (hb : Text.isBlank c = false) (hc : c ≠ '#') (rest : Text) :
    hashComment.find (c :: rest) = false := by
  have hn : ('#' == c) = false := beq_eq_false_iff_ne.2 (Ne.symm hc)
  rw [find, hashComment, findFrom, findFrom_start_false, meets, meets, repeatUntil]
  simp only [meets, CharTest.holds, hb, hn, Bool.false_and, Bool.and_false, Bool.or_false]

end Pattern

namespace BlockLine

/-- The text of an entry is read as that entry, and as a query when the entry has no value. -/
theorem of_entry {key : Text} (hk : ':' ∉ key) (value : Text) :
    BlockLine.of (key ++ ": " ++ value) = if Text.isBlankText value
      then .bare (key ++ ": " ++ value) else .entry (Text.trim key) (Text.trim value) := by
  have hp : Text.partition ':' (key ++ ": " ++ value) = (key, ' ' :: value) := by
    rw [List.append_assoc]
    exact Text.partition_append_cons hk (' ' :: value)
  rw [BlockLine.of, hp]
  dsimp only
  rw [Text.isBlankText_cons_blank (by decide), Text.trim_cons_blank (by decide)]

end BlockLine

/-- A limit is read back from its digits. -/
theorem Limit.read_ofNat {limit : Limit} (h : (Text.ofNat limit.value).length ≤ Text.numeralLimit) :
    Limit.read (Text.ofNat limit.value) = .ok limit := by
  rw [Limit.read, if_pos (Text.isNumeral_ofNat _), if_neg (Nat.not_lt.2 h)]
  simp only [Text.numeralValue_ofNat, limit.positive, dif_pos]

theorem Limit.length_of_read {value : Text} {limit : Limit} (h : Limit.read value = .ok limit) :
    (Text.ofNat limit.value).length ≤ Text.numeralLimit := by
  rw [Limit.read] at h
  split at h
  · next hn =>
    split at h
    · cases h
    · next hl =>
      split at h
      · cases h
        exact (Text.length_ofNat_numeralValue hn).trans (Nat.not_lt.1 hl)
      · cases h
  · cases h

theorem Mode.ofWord?_word (mode : Mode) : ofWord? mode.word = some mode := by
  cases mode <;> decide

theorem Mode.word_isCapitals (mode : Mode) : Text.IsCapitals mode.word := by
  cases mode <;> decide

theorem Mode.isToken_word (mode : Mode) : Text.IsToken mode.word :=
  .of_isCapitals (by cases mode <;> decide) mode.word_isCapitals

namespace Spec

variable {settings : Settings} {s : Spec}

def queryEntries (query : Text) : List (Text × Text) :=
  if query.isEmpty then [] else [("query", query)]

def limitEntries : Option Limit → List (Text × Text)
  | some limit => [("limit", Text.ofNat limit.value)]
  | none => []

def columnEntries (settings : Settings) (columns : List Column) : List (Text × Text) :=
  if columns.isEmpty then []
  else [("columns", Text.joinWith ", " (columns.map (Column.write settings)))]

/-- The entries of the canonical text, one a line. -/
def entries (settings : Settings) (s : Spec) : List (Text × Text) :=
  ("type", s.mode.word) ::
    (queryEntries s.query ++ (limitEntries s.limit ++ columnEntries settings s.columns))

/-- The line of an entry without its line feed. -/
def entryText (entry : Text × Text) : Text := entry.1 ++ ": " ++ entry.2

/-- The words before the colons. -/
def keys : List Text := ["type", "query", "limit", "columns"]

theorem write_eq_flatMap (settings : Settings) (s : Spec) :
    s.write settings = (s.entries settings).flatMap fun entry => entryText entry ++ ['\n'] := by
  rw [write, entries, List.flatMap_cons, List.flatMap_append, List.flatMap_append,
    List.append_assoc, List.append_assoc]
  congr 2
  · rw [queryEntries]
    split
    · rfl
    · exact (List.append_nil _).symm
  · congr 1
    · cases s.limit with
      | none => rfl
      | some limit => exact (List.append_nil _).symm
    · rw [columnEntries]
      split
      · rfl
      · exact (List.append_nil _).symm

theorem lines_flatMap_entryText {es : List (Text × Text)}
    (h : ∀ entry ∈ es, Text.IsOneLine (entryText entry)) :
    Text.lines (es.flatMap fun entry => entryText entry ++ ['\n']) = es.map entryText := by
  induction es with
  | nil => rfl
  | cons entry es ih =>
    rw [List.flatMap_cons, List.append_assoc, List.singleton_append,
      Text.lines_append_lineFeed (h entry List.mem_cons_self),
      ih fun e he => h e (List.mem_cons_of_mem entry he), List.map_cons]

/-- A key starts with a letter, so that its line is neither blank nor a comment. -/
theorem entryText_counts {entry : Text × Text} (h : entry.1 ∈ keys) :
    (!(Text.isBlankText (entryText entry) || Pattern.hashComment.find (entryText entry))) = true := by
  have hk : ∀ key ∈ keys, key.head?.any (fun c => !Text.isBlank c && c ≠ '#') = true := by decide
  obtain ⟨c, hc, hcounts⟩ := (Option.any_eq_true _ _).1 (hk _ h)
  rw [Bool.and_eq_true, Bool.not_eq_true', decide_eq_true_eq] at hcounts
  obtain ⟨hb, hn⟩ := hcounts
  obtain ⟨rest, he⟩ := List.head?_eq_some_iff.1 hc
  rw [entryText, he, List.append_assoc, List.cons_append, Text.isBlankText_cons hb,
    Pattern.find_hashComment hb hn]
  rfl

/-- What a specification needs besides a query on one line so that its canonical text says the same:
a limit that is not too long to be read, and columns that can be written. -/
structure IsWritable (settings : Settings) (s : Spec) : Prop where
  limit : ∀ limit ∈ s.limit, (Text.ofNat limit.value).length ≤ Text.numeralLimit
  columns : ∀ c ∈ s.columns, c.content.IsWritable settings.customFields

theorem forall_mem_entries {P : Text × Text → Prop} (hm : P ("type", s.mode.word))
    (hq : s.query ≠ [] → P ("query", s.query))
    (hl : ∀ limit, s.limit = some limit → P ("limit", Text.ofNat limit.value))
    (hc : s.columns ≠ [] →
      P ("columns", Text.joinWith ", " (s.columns.map (Column.write settings)))) :
    ∀ entry ∈ s.entries settings, P entry := by
  intro entry he
  rcases List.mem_cons.1 he with rfl | he
  · exact hm
  rcases List.mem_append.1 he with he | he
  · rw [queryEntries] at he
    split at he
    · cases he
    · next hne =>
      rw [List.mem_singleton.1 he]
      exact hq fun h => hne (List.isEmpty_iff.2 h)
  rcases List.mem_append.1 he with he | he
  · cases hs : s.limit with
    | none =>
      rw [hs] at he
      cases he
    | some limit =>
      rw [hs] at he
      rw [List.mem_singleton.1 he]
      exact hl limit hs
  · rw [columnEntries] at he
    split at he
    · cases he
    · next hne =>
      rw [List.mem_singleton.1 he]
      exact hc fun h => hne (List.isEmpty_iff.2 h)

theorem key_mem_keys : ∀ entry ∈ s.entries settings, entry.1 ∈ keys := by
  refine forall_mem_entries ?_ (fun _ => ?_) (fun _ _ => ?_) (fun _ => ?_) <;>
    (dsimp only; decide)

theorem isOneLine_entryText (hs : settings.HasPlainSymbol) (hw : s.IsWritable settings)
    (hq : Text.IsOneLine s.query) :
    ∀ entry ∈ s.entries settings, Text.IsOneLine (entryText entry) := by
  have hk : ∀ key ∈ keys, Text.IsOneLine (key ++ ": ") := by decide
  suffices hv : ∀ entry ∈ s.entries settings, Text.IsOneLine entry.2 from
    fun entry he => (hk entry.1 (key_mem_keys entry he)).append (hv entry he)
  refine forall_mem_entries s.mode.isToken_word.one_line (fun _ => hq)
    (fun limit _ => (Text.isToken_ofNat limit.value).one_line) (fun _ => ?_)
  refine Text.IsOneLine.joinWith (by decide) fun part hp => ?_
  obtain ⟨c, hc, rfl⟩ := List.mem_map.1 hp
  exact (Column.write_isToken hs (hw.columns c hc)).one_line

/-- The lines of the canonical text all count. -/
theorem effectiveLines_write (hs : settings.HasPlainSymbol) (hw : s.IsWritable settings)
    (hq : Text.IsOneLine s.query) :
    effectiveLines Pattern.hashComment (s.write settings) =
      (s.entries settings).map entryText := by
  rw [effectiveLines, write_eq_flatMap, lines_flatMap_entryText (isOneLine_entryText hs hw hq),
    List.filter_eq_self]
  intro line hl
  obtain ⟨entry, he, rfl⟩ := List.mem_map.1 hl
  exact entryText_counts (key_mem_keys entry he)

theorem applyLine_entryText {key value : Text} (hk : key ∈ keys)
    (hv : Text.isBlankText value = false) :
    s.applyLine settings (entryText (key, value)) =
      s.applyEntry settings key (Text.trim value) := by
  have hc : ∀ key ∈ keys, ':' ∉ key ∧ Text.trim key = key := by decide
  rw [applyLine, entryText, BlockLine.of_entry (hc key hk).1, hv, if_neg Bool.false_ne_true,
    (hc key hk).2]

/-- What is read where a query is written: nothing stands for the empty query, a blank one has its
whole line taken for the query, and any other is trimmed. -/
def rereadQuery (query : Text) : Text :=
  if query.isEmpty then []
  else if Text.isBlankText query then entryText ("query", query)
  else Text.trim query

theorem applyEntry_type (mode : Mode) :
    s.applyEntry settings "type" mode.word = .ok { s with mode := mode } := by
  rw [applyEntry, if_pos (by decide), mode.word_isCapitals.upper, mode.ofWord?_word]

theorem applyEntry_query (value : Text) :
    s.applyEntry settings "query" value = .ok { s with query := value } := by
  rw [applyEntry, if_neg (by decide), if_pos (by decide)]

theorem applyEntry_limit {value : Text} {limit : Limit} (h : Limit.read value = .ok limit) :
    s.applyEntry settings "limit" value = .ok { s with limit := some limit } := by
  rw [applyEntry, if_neg (by decide), if_neg (by decide), if_pos (by decide), h]

theorem applyEntry_columns {value : Text} {columns : List Column}
    (h : Column.readList settings value = .ok columns) :
    s.applyEntry settings "columns" value = .ok { s with columns := columns } := by
  rw [applyEntry, if_neg (by decide), if_neg (by decide), if_neg (by decide), if_pos (by decide), h]

theorem foldlM_queryEntries (query : Text) (hq : s.query = []) :
    ((queryEntries query).map entryText).foldlM (applyLine settings) s =
      .ok { s with query := rereadQuery query } := by
  have hk : ':' ∉ ("query" : Text) := by decide
  rw [queryEntries, rereadQuery]
  split
  · rw [← hq]
    rfl
  rw [List.map_singleton, List.foldlM_cons]
  split
  · next hb =>
    rw [applyLine, entryText, BlockLine.of_entry hk, hb, if_pos rfl]
    rfl
  · next hb =>
    rw [applyLine_entryText (by decide) (Bool.eq_false_iff.2 hb), applyEntry_query]
    rfl

theorem foldlM_limitEntries {limit : Option Limit} (hl : s.limit = none)
    (h : ∀ l ∈ limit, (Text.ofNat l.value).length ≤ Text.numeralLimit) :
    ((limitEntries limit).map entryText).foldlM (applyLine settings) s =
      .ok { s with limit := limit } := by
  cases limit with
  | none =>
    obtain ⟨mode, query, limit, columns⟩ := s
    subst hl
    rfl
  | some limit =>
    have ht := Text.isToken_ofNat limit.value
    rw [limitEntries, List.map_singleton, List.foldlM_cons,
      applyLine_entryText (by decide) ht.isBlankText, ht.trim,
      applyEntry_limit (Limit.read_ofNat (h limit rfl))]
    rfl

theorem foldlM_columnEntries {columns : List Column} (hs : settings.HasPlainSymbol)
    (hc : s.columns = []) (h : ∀ c ∈ columns, c.content.IsWritable settings.customFields) :
    ((columnEntries settings columns).map entryText).foldlM (applyLine settings) s =
      .ok { s with columns := columns } := by
  rw [columnEntries]
  split
  · next he =>
    rw [List.isEmpty_iff.1 he, ← hc]
    rfl
  · next he =>
    have hne : columns ≠ [] := fun h => he (List.isEmpty_iff.2 h)
    have ht : Text.IsTight (Text.joinWith ", " (columns.map (Column.write settings))) := by
      refine .joinWith (fun h => hne (List.map_eq_nil_iff.1 h)) fun part hp => ?_
      obtain ⟨c, hc, rfl⟩ := List.mem_map.1 hp
      exact (Column.write_isToken hs (h c hc)).toIsTight
    rw [List.map_singleton, List.foldlM_cons, applyLine_entryText (by decide) ht.isBlankText,
      ht.trim, applyEntry_columns (Column.readList_write hs h hne)]
    rfl

/-- The canonical text is read as the specification it was written for, but for the query. -/
theorem read_write (hp : settings.commentPattern = "^\\s*#") (hs : settings.HasPlainSymbol)
    (hw : s.IsWritable settings) (hq : Text.IsOneLine s.query)
    (hlc : s.isListWithColumns = false) :
    read settings (s.write settings) = .ok { s with query := rereadQuery s.query } := by
  have hf : ((s.entries settings).map entryText).foldlM (applyLine settings) empty =
      .ok { s with query := rereadQuery s.query } := by
    rw [entries, List.map_cons, List.foldlM_cons,
      applyLine_entryText (by decide) s.mode.isToken_word.isBlankText, s.mode.isToken_word.trim,
      applyEntry_type]
    change List.foldlM _ _ _ = _
    rw [List.map_append, List.map_append, List.foldlM_append, foldlM_queryEntries _ rfl]
    change List.foldlM _ _ _ = _
    rw [List.foldlM_append, foldlM_limitEntries rfl hw.limit]
    exact foldlM_columnEntries hs rfl hw.columns
  rw [read, hp, Pattern.read_hashComment]
  dsimp only
  rw [effectiveLines_write hs hw hq, hf]
  dsimp only
  rw [show isListWithColumns { s with query := rereadQuery s.query } = s.isListWithColumns from rfl,
    hlc, if_neg Bool.false_ne_true]

/-- What every specification has that was read from a block, whatever the settings. -/
structure IsSound (settings : Settings) (s : Spec) : Prop where
  query_line : Text.IsOneLine s.query
  query_blank : s.query = [] ∨ Text.isBlankText s.query = false
  limit : ∀ limit ∈ s.limit, (Text.ofNat limit.value).length ≤ Text.numeralLimit
  columns : ∀ c ∈ s.columns, c.content.IsSound settings.customFields

theorem empty_isSound (settings : Settings) : IsSound settings empty where
  query_line c hc := absurd hc List.not_mem_nil
  query_blank := .inl rfl
  limit limit hl := by cases hl
  columns c hc := absurd hc List.not_mem_nil

theorem applyEntry_isSound {key value : Text} {s' : Spec} (hs : s.IsSound settings)
    (hl : Text.IsOneLine value) (hb : Text.isBlankText value = false)
    (h : s.applyEntry settings key value = .ok s') : s'.IsSound settings := by
  rw [applyEntry] at h
  split at h
  · split at h
    · cases h
      exact { hs with }
    · cases h
  split at h
  · cases h
    exact { hs with query_line := hl, query_blank := .inr hb }
  split at h
  · split at h
    · next limit hr =>
      cases h
      refine { hs with limit := ?_ }
      rintro _ ⟨⟩
      exact Limit.length_of_read hr
    · cases h
  split at h
  · split at h
    · next columns hr =>
      cases h
      exact { hs with columns := Column.readList_isSound hl hr }
    · cases h
  · cases h

theorem applyLine_isSound {line : Text} {s' : Spec} (hs : s.IsSound settings)
    (hl : Text.IsOneLine line) (hb : Text.isBlankText line = false)
    (h : s.applyLine settings line = .ok s') : s'.IsSound settings := by
  rw [applyLine, BlockLine.of] at h
  dsimp only at h
  by_cases hv : Text.isBlankText (Text.partition ':' line).2 = true
  · rw [if_pos hv] at h
    cases h
    exact { hs with query_line := hl, query_blank := .inr hb }
  · rw [if_neg hv] at h
    refine applyEntry_isSound hs ?_ ?_ h
    · have hp := (Text.partition_snd_suffix ':' line).subset
      exact hl.of_subset fun c hc => hp (Text.mem_of_mem_trim hc)
    · rw [Text.isBlankText_trim]
      exact Bool.eq_false_iff.2 hv

/-- Reading with any rule for comments in the place of the pattern of the settings. -/
def readUnder (isComment : Text → Bool) (settings : Settings) (t : Text) : Except SpecFailure Spec :=
  let lines := (Text.lines t).filter fun line => !(Text.isBlankText line || isComment line)
  match lines.foldlM (applyLine settings) empty with
  | .error failure => .error failure
  | .ok s => if s.isListWithColumns then .error (.rejected .listWithColumns) else .ok s

/-- The pattern of the settings is such a rule. -/
theorem exists_readUnder_of_read {t : Text} (h : read settings t = .ok s) :
    ∃ isComment, readUnder isComment settings t = .ok s := by
  rw [read] at h
  split at h
  · cases h
  · next comment _ => exact ⟨comment.find, h⟩

/-- Whatever is read from lines that are no comments is sound, and no list with columns. -/
theorem readUnder_isSound {isComment : Text → Bool} {t : Text}
    (h : readUnder isComment settings t = .ok s) :
    s.IsSound settings ∧ s.isListWithColumns = false := by
  rw [readUnder] at h
  split at h
  · cases h
  · next r hf =>
    split at h
    · cases h
    · next hlc =>
      cases h
      refine ⟨?_, Bool.eq_false_iff.2 hlc⟩
      -- Blank lines are left out first, so no line that is read leaves a blank query.
      refine Steps.foldlM_invariant ?_ (empty_isSound settings) hf
      intro s hs line hm s' ha
      obtain ⟨hl, hc⟩ := List.mem_filter.1 hm
      rw [Bool.not_eq_true', Bool.or_eq_false_iff] at hc
      exact applyLine_isSound hs (Text.isOneLine_of_mem_lines hl) hc.1 ha

/-- Whatever is read from a block is sound, and no list with columns. -/
theorem read_isSound {t : Text} (h : read settings t = .ok s) :
    s.IsSound settings ∧ s.isListWithColumns = false := by
  obtain ⟨isComment, hunder⟩ := exists_readUnder_of_read h
  exact readUnder_isSound hunder

theorem rereadQuery_eq_self_iff {query : Text} :
    rereadQuery query = query ↔ Text.trim query = query := by
  rw [rereadQuery]
  split
  · next he =>
    rw [List.isEmpty_iff.1 he]
    exact ⟨fun _ => rfl, fun _ => rfl⟩
  · next he =>
    split
    · next hb =>
      rw [Text.trim_eq_nil_iff.2 hb]
      constructor
      · intro h
        have hl : query.length + 7 = query.length := congrArg List.length h
        omega
      · intro h
        exact absurd (List.isEmpty_iff.2 h.symm) he
    · exact Iff.rfl

theorem IsSound.rereadQuery (h : s.IsSound settings) :
    Spec.rereadQuery s.query = Text.trim s.query := by
  rw [Spec.rereadQuery]
  rcases h.query_blank with he | hb
  · rw [he]
    rfl
  · rw [hb, if_neg Bool.false_ne_true, if_neg]
    intro he
    rw [List.isEmpty_iff.1 he] at hb
    cases hb

theorem isListWithColumns_eq_false_iff :
    s.isListWithColumns = false ↔ ¬(s.mode = .list ∧ s.columns ≠ []) := by
  rw [isListWithColumns, Bool.and_eq_false_iff, decide_eq_false_iff_not, Bool.not_eq_false',
    List.isEmpty_iff, not_and_or, not_not]

/-- A specification comes back from its canonical text exactly when its query is one trimmed line and
it is no list with columns. -/
theorem read_write_eq_self_iff (hp : settings.commentPattern = "^\\s*#")
    (hs : settings.HasPlainSymbol) (hw : s.IsWritable settings) :
    read settings (s.write settings) = .ok s ↔
      Text.trim s.query = s.query ∧ Text.IsOneLine s.query ∧ ¬(s.mode = .list ∧ s.columns ≠ []) := by
  rw [← isListWithColumns_eq_false_iff, ← rereadQuery_eq_self_iff]
  constructor
  · intro h
    obtain ⟨hr, hlc⟩ := read_isSound h
    rw [read_write hp hs hw hr.query_line hlc, Except.ok.injEq] at h
    exact ⟨congrArg Spec.query h, hr.query_line, hlc⟩
  · rintro ⟨hq, hl, hlc⟩
    rw [read_write hp hs hw hl hlc, hq]

/-- The rule for columns of all kinds behind a symbol of two characters, and a query that looks like
an entry. -/
theorem read_write_of_all_columns :
    let settings : Settings := { Settings.standard with
      compactSymbol := "x#", customFields := [("7", .text "Team")] }
    let s : Spec := ⟨.table, "limit: 5 :", some ⟨50, by decide⟩,
      [⟨true, .field .dueDate⟩, ⟨false, .notes []⟩, ⟨true, .notes " a.b"⟩, ⟨true, .custom "7"⟩]⟩
    settings.commentPattern = "^\\s*#" ∧ settings.HasPlainSymbol ∧ s.IsWritable settings ∧
      (read settings (s.write settings) = .ok s ↔
        Text.trim s.query = s.query ∧ Text.IsOneLine s.query ∧
          ¬(s.mode = .list ∧ s.columns ≠ [])) := by
  intro settings s
  have hs : settings.HasPlainSymbol := ⟨⟨'x', rfl, by decide⟩, by decide, by decide⟩
  have hw : s.IsWritable settings := ⟨by decide, by decide⟩
  exact ⟨rfl, hs, hw, read_write_eq_self_iff rfl hs hw⟩

theorem IsSound.isWritable (h : s.IsSound settings) (hs : settings.HasUsualGrammar) :
    s.IsWritable settings :=
  ⟨h.limit, fun c hc => (h.columns c hc).isWritable hs.ids⟩

theorem IsSound.read_write (h : s.IsSound settings) (hs : settings.HasUsualGrammar)
    (hlc : s.isListWithColumns = false) :
    read settings (s.write settings) = .ok { s with query := Text.trim s.query } := by
  rw [Spec.read_write hs.comments hs.hasPlainSymbol (h.isWritable hs) h.query_line hlc,
    h.rereadQuery]

/-- The canonical text of a block that was read says the same as the block, but for white space at the
ends of the query; so it says exactly the same when there is none. -/
theorem read_write_of_read (hs : settings.HasUsualGrammar) {t : Text}
    (h : read settings t = .ok s) :
    read settings (s.write settings) = .ok { s with query := Text.trim s.query } ∧
      (read settings (s.write settings) = .ok s ↔ Text.trim s.query = s.query) := by
  obtain ⟨hr, hlc⟩ := read_isSound h
  have hw : s.IsWritable settings := ⟨hr.limit, fun c hc => (hr.columns c hc).isWritable hs.ids⟩
  have hrw := read_write hs.comments hs.hasPlainSymbol hw hr.query_line hlc
  rw [hr.rereadQuery] at hrw
  refine ⟨hrw, ?_⟩
  rw [hrw, Except.ok.injEq]
  constructor
  · exact congrArg Spec.query
  · intro hq
    rw [hq]

/-- A block with comments, overridden lines and a query that stands between blanks. -/
theorem read_write_of_padded_query :
    let settings : Settings := { Settings.standard with customFields := [("7", .text "Team")] }
    let t : Text := "# all\n a = b \nlimit: 05\nLimit: 007\ncolumns: -key,notes. x ,,-$Team\n"
    let s : Spec := ⟨.table, " a = b ", some ⟨7, by decide⟩,
      [⟨true, .field .key⟩, ⟨false, .notes " x"⟩, ⟨true, .custom "7"⟩]⟩
    settings.HasUsualGrammar ∧ read settings t = .ok s ∧
      read settings (s.write settings) = .ok { s with query := "a = b" } ∧
      (read settings (s.write settings) = .ok s ↔ Text.trim s.query = s.query) := by
  intro settings t s
  have hids : ∀ field ∈ settings.customFields, ∀ c ∈ field.1, Text.isDigit c = true := by
    intro field hf
    rw [List.mem_singleton.1 hf]
    exact List.all_eq_true.1 rfl
  have hs : settings.HasUsualGrammar := ⟨rfl, rfl, hids⟩
  have ht : read settings t = .ok s := by decide +kernel
  exact ⟨hs, ht, read_write_of_read hs ht⟩

end Spec

end QueryFence
