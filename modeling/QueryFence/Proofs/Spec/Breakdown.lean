import QueryFence.Proofs.Spec.Fault

/-!
Where reading a block breaks down. A mistake of its author is told; but a limit of too many digits, and a
column that names a custom field where the names of fields cannot be compared, end the reading itself.
-/

namespace QueryFence

open QueryFence.Steps

/-- Reading ends neither well nor with a mistake of the author. -/
def BreaksDown {α : Type} (result : Except SpecFailure α) : Prop :=
  ∃ failure, (∃ fault, failure = .fault fault) ∧ result = .error failure

section

variable {α β : Type} {result : Except SpecFailure α}

theorem not_breaksDown_ok (a : α) : ¬ BreaksDown (.ok a : Except SpecFailure α) := nofun

theorem not_breaksDown_rejected (error : SpecError) :
    ¬ BreaksDown (.error (.rejected error) : Except SpecFailure α) := by
  rintro ⟨_, ⟨fault, rfl⟩, h⟩
  cases h

theorem breaksDown_fault (fault : Fault) :
    BreaksDown (.error (.fault fault) : Except SpecFailure α) := ⟨_, ⟨fault, rfl⟩, rfl⟩

theorem breaksDown_iff : BreaksDown result ↔ ∃ fault, result = .error (.fault fault) := by
  constructor
  · rintro ⟨_, ⟨fault, rfl⟩, h⟩
    exact ⟨fault, h⟩
  · rintro ⟨fault, h⟩
    exact ⟨_, ⟨fault, rfl⟩, h⟩

/-- What is made of a result does not change how it ends. -/
theorem breaksDown_map_iff (f : α → β) : BreaksDown (result.map f) ↔ BreaksDown result := by
  cases result with
  | ok a => exact iff_of_false (not_breaksDown_ok _) (not_breaksDown_ok a)
  | error failure =>
    cases failure with
    | rejected error => exact iff_of_false (not_breaksDown_rejected error) (not_breaksDown_rejected error)
    | fault fault => exact iff_of_true (breaksDown_fault fault) (breaksDown_fault fault)

theorem endsWell_map_iff (f : α → β) : EndsWell (result.map f) ↔ EndsWell result := by
  cases result with
  | ok a => exact iff_of_true (endsWell_ok _) (endsWell_ok a)
  | error failure => exact iff_of_false (not_endsWell_error _) (not_endsWell_error _)

end

namespace FieldTable

variable {table : FieldTable}

theorem endsWell_idsByName_iff : EndsWell table.idsByName ↔ table.HasPlainNames := by
  rw [idsByName, HasPlainNames]
  refine endsWell_foldlM_iff ?_ []
  rintro ids ⟨id, name⟩ -
  cases name with
  | list items => exact iff_of_false (not_endsWell_error _) fun h => (h items).1 rfl
  | object members => exact iff_of_false (not_endsWell_error _) fun h => (h []).2 members rfl
  | null | bool | int | float | text =>
    refine iff_of_true (endsWell_ok _) fun v => ⟨?_, ?_⟩
    · rintro ⟨⟩
    · rintro members ⟨⟩

/-- A name can be looked for exactly when no field has a name that cannot be compared. -/
theorem endsWell_idOf?_iff (name : Text) : EndsWell (table.idOf? name) ↔ table.HasPlainNames := by
  rw [← endsWell_idsByName_iff, idOf?]
  cases table.idsByName with
  | ok ids => exact iff_of_true (endsWell_ok _) (endsWell_ok ids)
  | error fault => exact iff_of_false (not_endsWell_error _) (not_endsWell_error fault)

end FieldTable

namespace Column

variable {settings : Settings} {token : Text}

theorem breaksDown_resolve_iff {table : FieldTable} {selector : Text} :
    BreaksDown (resolve table selector) ↔ Text.isDigits selector = false ∧ ¬ table.HasPlainNames := by
  rw [resolve]
  split
  · next hdigits =>
    refine iff_of_false ?_ fun h => absurd (h.1.symm.trans hdigits) Bool.false_ne_true
    split
    · exact not_breaksDown_ok _
    · exact not_breaksDown_rejected _
  · next hname =>
    rw [← FieldTable.endsWell_idOf?_iff selector]
    have hdigits : Text.isDigits selector = false := Bool.eq_false_iff.2 hname
    cases table.idOf? selector with
    | error fault => exact iff_of_true (breaksDown_fault fault) ⟨hdigits, not_endsWell_error fault⟩
    | ok found =>
      refine iff_of_false ?_ fun h => h.2 (endsWell_ok found)
      cases found with
      | none => exact not_breaksDown_rejected _
      | some id =>
        dsimp only
        split
        · exact not_breaksDown_rejected _
        · exact not_breaksDown_ok _

/-- A token without the white space around it and the symbol of compact columns. -/
def bareToken (settings : Settings) (token : Text) : Text :=
  if settings.compactSymbol.isPrefixOf (Text.trim token)
  then (Text.trim token).drop settings.compactSymbol.length else Text.trim token

/-- A token that selects a custom field by its name. -/
def NamesField (settings : Settings) (token : Text) : Prop :=
  ∃ selector, bareToken settings token = '$' :: selector ∧ Text.isDigits selector = false

theorem breaksDown_readContent_iff : BreaksDown (readContent settings token) ↔
    (∃ selector, token = '$' :: selector ∧ Text.isDigits selector = false) ∧
      ¬ settings.customFields.HasPlainNames := by
  by_cases hsign : ∃ selector, token = '$' :: selector
  · obtain ⟨selector, rfl⟩ := hsign
    have hmap : readContent settings ('$' :: selector) =
        (resolve settings.customFields selector).map Content.custom := by
      rw [readContent_custom]
      cases resolve settings.customFields selector <;> rfl
    rw [hmap, breaksDown_map_iff, breaksDown_resolve_iff]
    constructor
    · exact fun ⟨hdigits, hnames⟩ => ⟨⟨selector, rfl, hdigits⟩, hnames⟩
    · rintro ⟨⟨_, ⟨⟩, hdigits⟩, hnames⟩
      exact ⟨hdigits, hnames⟩
  · -- no other word is looked up in the table
    refine iff_of_false (fun hbreak => ?_) fun ⟨⟨selector, hself, _⟩, _⟩ => hsign ⟨selector, hself⟩
    obtain ⟨fault, hfault⟩ := breaksDown_iff.1 hbreak
    unfold readContent at hfault
    dsimp only at hfault
    split at hfault
    · cases hfault
    · split at hfault
      · exact hsign ⟨_, rfl⟩
      · split at hfault
        · cases hfault
        · split at hfault
          · cases hfault
          · cases hfault

theorem breaksDown_read_iff : BreaksDown (read settings token) ↔
    NamesField settings token ∧ ¬ settings.customFields.HasPlainNames := by
  have hmap : read settings token = (readContent settings (bareToken settings token)).map
      fun content => ⟨settings.compactSymbol.isPrefixOf (Text.trim token), content⟩ := by
    rw [read, ← bareToken]
    cases readContent settings (bareToken settings token) <;> rfl
  rw [hmap, breaksDown_map_iff, breaksDown_readContent_iff, NamesField]

/-- Reading columns breaks down at the first of them that is none, if it names a custom field. -/
theorem breaksDown_readList_iff {t : Text} : BreaksDown (readList settings t) ↔
    ∃ before token behind, tokens t = before ++ token :: behind ∧
      (∀ other ∈ before, EndsWell (read settings other)) ∧ NamesField settings token ∧
      ¬ settings.customFields.HasPlainNames := by
  rw [breaksDown_iff, readList]
  constructor
  · rintro ⟨fault, h⟩
    obtain ⟨before, token, behind, htokens, hbefore, hfault⟩ := mapM_eq_error_iff.1 h
    exact ⟨before, token, behind, htokens, hbefore,
      breaksDown_read_iff.1 (breaksDown_iff.2 ⟨fault, hfault⟩)⟩
  · rintro ⟨before, token, behind, htokens, hbefore, hnames⟩
    obtain ⟨fault, hfault⟩ := breaksDown_iff.1 (breaksDown_read_iff.2 hnames)
    exact ⟨fault, mapM_eq_error_iff.2 ⟨before, token, behind, htokens, hbefore, hfault⟩⟩

end Column

theorem Limit.breaksDown_read_iff {value : Text} : BreaksDown (Limit.read value) ↔
    Text.isNumeral value = true ∧ Text.numeralLimit < value.length := by
  rw [Limit.read]
  split
  · next hn =>
    split
    · next hlong => exact iff_of_true (breaksDown_fault _) ⟨hn, hlong⟩
    · next hshort =>
      refine iff_of_false ?_ fun h => hshort h.2
      split
      · exact not_breaksDown_ok _
      · exact not_breaksDown_rejected _
  · next hn => exact iff_of_false (not_breaksDown_rejected _) fun h => hn h.1

theorem Text.isToken_of_isNumeral {digits : Text} (h : isNumeral digits = true) : IsToken digits := by
  obtain ⟨hne, hdigits⟩ := isNumeral_iff.1 h
  exact .of_solid hne fun c hc =>
    ⟨isBlank_of_isDigit (isDigit_of_ascii (hdigits c hc)), ne_of_isDigit (hdigits c hc) (by decide)⟩

namespace Spec

variable {settings : Settings} {s : Spec} {line : Text}

/-- A line at which reading breaks down. -/
inductive LineBreaksDown (settings : Settings) (line : Text) : Prop
  /-- A number with more digits than are looked at. -/
  | limit (hk : keyOf line = "limit") (hn : Text.isNumeral (valueOf line) = true)
      (h : Text.numeralLimit < (valueOf line).length)
  /-- A custom field that is selected by name, where names cannot be compared. -/
  | columns {before behind : List Text} {token : Text} (hk : keyOf line = "columns")
      (htokens : Column.tokens (valueOf line) = before ++ token :: behind)
      (hbefore : ∀ other ∈ before, EndsWell (Column.read settings other))
      (hnames : Column.NamesField settings token) (h : ¬ settings.customFields.HasPlainNames)

theorem lineBreaksDown_limit_iff (hk : keyOf line = "limit") : LineBreaksDown settings line ↔
    BreaksDown (Limit.read (valueOf line)) := by
  rw [Limit.breaksDown_read_iff]
  constructor
  · rintro (⟨-, hn, h⟩ | ⟨hother, -, -, -, -⟩)
    · exact ⟨hn, h⟩
    · rw [hk] at hother
      exact absurd hother (by decide)
  · exact fun ⟨hn, h⟩ => .limit hk hn h

theorem lineBreaksDown_columns_iff (hk : keyOf line = "columns") : LineBreaksDown settings line ↔
    BreaksDown (Column.readList settings (valueOf line)) := by
  rw [Column.breaksDown_readList_iff]
  constructor
  · rintro (⟨hother, -, -⟩ | ⟨-, htokens, hbefore, hnames, h⟩)
    · rw [hk] at hother
      exact absurd hother (by decide)
    · exact ⟨_, _, _, htokens, hbefore, hnames, h⟩
  · exact fun ⟨_, _, _, htokens, hbefore, hnames, h⟩ => .columns hk htokens hbefore hnames h

theorem not_lineBreaksDown (h : keyOf line ≠ "limit" ∧ keyOf line ≠ "columns") :
    ¬ LineBreaksDown settings line := by
  rintro (⟨hk, -, -⟩ | ⟨hk, -, -, -, -⟩)
  · exact h.1 hk
  · exact h.2 hk

theorem applyEntry_limit_eq_map (s : Spec) (value : Text) : s.applyEntry settings "limit" value =
    (Limit.read value).map fun limit => { s with limit := some limit } := by
  rw [applyEntry, show Text.lowerAscii "limit" = "limit" from rfl, if_neg (by decide),
    if_neg (by decide), if_pos rfl]
  cases Limit.read value <;> rfl

theorem applyEntry_columns_eq_map (s : Spec) (value : Text) : s.applyEntry settings "columns" value =
    (Column.readList settings value).map fun columns => { s with columns := columns } := by
  rw [applyEntry, show Text.lowerAscii "columns" = "columns" from rfl, if_neg (by decide),
    if_neg (by decide), if_neg (by decide), if_pos rfl]
  cases Column.readList settings value <;> rfl

/-- An entry of another key does not break down. -/
theorem not_breaksDown_applyEntry {key value : Text} (hl : Text.lowerAscii key ≠ "limit")
    (hc : Text.lowerAscii key ≠ "columns") : ¬ BreaksDown (s.applyEntry settings key value) := by
  rw [applyEntry]
  split
  · cases Mode.ofWord? (Text.upper value) with
    | some mode => exact not_breaksDown_ok _
    | none => exact not_breaksDown_rejected _
  · split
    · exact not_breaksDown_ok _
    · exact not_breaksDown_rejected _

/-- Reading breaks down at the same lines, whatever has been read before. -/
theorem breaksDown_applyLine_iff (s : Spec) (line : Text) :
    BreaksDown (s.applyLine settings line) ↔ LineBreaksDown settings line := by
  by_cases hv : valueOf line = []
  · -- a query has no value, so neither digits nor columns
    rw [applyLine_bare hv]
    refine iff_of_false (not_breaksDown_ok _) ?_
    rintro (⟨-, hn, -⟩ | ⟨-, htokens, -, -, -⟩)
    · rw [hv] at hn
      exact absurd hn (by decide)
    · rw [hv, show Column.tokens [] = [] from rfl] at htokens
      exact absurd htokens.symm (List.append_ne_nil_of_right_ne_nil _ (List.cons_ne_nil _ _))
  by_cases hl : keyOf line = "limit"
  · rw [applyLine_key hv hl (by decide), applyEntry_limit_eq_map, breaksDown_map_iff,
      lineBreaksDown_limit_iff hl]
  by_cases hc : keyOf line = "columns"
  · rw [applyLine_key hv hc (by decide), applyEntry_columns_eq_map, breaksDown_map_iff,
      lineBreaksDown_columns_iff hc]
  · rw [applyLine_entry hv]
    refine iff_of_false (not_breaksDown_applyEntry ?_ ?_) (not_lineBreaksDown ⟨hl, hc⟩)
    · exact fun h => hl ((Text.lower_eq_iff (by decide)).2 h)
    · exact fun h => hc ((Text.lower_eq_iff (by decide)).2 h)

/-- Whether a line is read does not depend on what has been read before. -/
theorem endsWell_applyLine_congr (s s' : Spec) (line : Text) :
    EndsWell (s.applyLine settings line) ↔ EndsWell (s'.applyLine settings line) := by
  have hsame : (s.applyLine settings line).map (fun _ => ()) =
      (s'.applyLine settings line).map fun _ => () := by
    rw [applyLine, applyLine]
    cases BlockLine.of line with
    | bare query => rfl
    | entry key value =>
      dsimp only
      rw [applyEntry, applyEntry]
      split
      · cases Mode.ofWord? (Text.upper value) <;> rfl
      · split
        · rfl
        · split
          · cases Limit.read value <;> rfl
          · split
            · cases Column.readList settings value <;> rfl
            · rfl
  have hforget : EndsWell (s.applyLine settings line) ↔
      EndsWell ((s.applyLine settings line).map fun _ => ()) := (endsWell_map_iff _).symm
  rw [hforget, hsame, endsWell_map_iff]

theorem endsWell_applyLine_iff (s : Spec) (line : Text) : EndsWell (s.applyLine settings line) ↔
    IsLine settings line ∧ ¬ LineBreaksDown settings line := by
  rw [endsWell_applyLine_congr s (lastWords settings [])]
  constructor
  · rintro ⟨s', hs'⟩
    have hbreak : ¬ LineBreaksDown settings line := by
      intro hdown
      obtain ⟨fault, hfault⟩ := breaksDown_iff.1 ((breaksDown_applyLine_iff _ line).2 hdown)
      cases hs'.symm.trans hfault
    exact ⟨((applyLine_lastWords_iff fun hk hn =>
      Nat.not_lt.1 fun hlong => hbreak (.limit hk hn hlong)).1 hs').1, hbreak⟩
  · rintro ⟨hline, hbreak⟩
    exact ⟨_, (applyLine_lastWords_iff fun hk hn =>
      Nat.not_lt.1 fun hlong => hbreak (.limit hk hn hlong)).2 ⟨hline, rfl⟩⟩

/-- Lines of which one breaks reading down, with lines of a block before it. -/
def HasBreakdown (settings : Settings) (lines : List Text) : Prop :=
  ∃ before line behind, lines = before ++ line :: behind ∧
    (∀ other ∈ before, IsLine settings other ∧ ¬ LineBreaksDown settings other) ∧
    LineBreaksDown settings line

/-- Reading a block breaks down at the first of its lines that is no line of a block, if at all. -/
theorem breaksDown_read_iff {comment : Pattern} (hc : Pattern.read settings.commentPattern = some comment)
    (t : Text) : BreaksDown (read settings t) ↔ HasBreakdown settings (effectiveLines comment t) := by
  have hlines : BreaksDown ((effectiveLines comment t).foldlM (applyLine settings) empty) ↔
      HasBreakdown settings (effectiveLines comment t) :=
    foldlM_fails_iff endsWell_applyLine_iff breaksDown_applyLine_iff empty
  rw [← hlines, read, hc]
  dsimp only
  cases (effectiveLines comment t).foldlM (applyLine settings) empty with
  | error failure =>
    cases failure with
    | rejected error => exact iff_of_false (not_breaksDown_rejected error) (not_breaksDown_rejected error)
    | fault fault => exact iff_of_true (breaksDown_fault fault) (breaksDown_fault fault)
  | ok s =>
    refine iff_of_false ?_ (not_breaksDown_ok s)
    dsimp only
    split
    · exact not_breaksDown_rejected _
    · exact not_breaksDown_ok s

/-- A limit of too many digits breaks reading down. -/
theorem lineBreaksDown_long_limit {digits : Text} (hn : Text.isNumeral digits = true)
    (h : Text.numeralLimit < digits.length) :
    LineBreaksDown settings (entryText ("limit", digits)) := by
  have htoken := Text.isToken_of_isNumeral hn
  rw [← breaksDown_applyLine_iff empty, applyLine_entryText (by decide) htoken.isBlankText,
    htoken.trim, applyEntry_limit_eq_map, breaksDown_map_iff, Limit.breaksDown_read_iff]
  exact ⟨hn, h⟩

theorem isOneLine_limit {digits : Text} (hn : Text.isNumeral digits = true) :
    Text.IsOneLine (entryText ("limit", digits)) := by
  have hstart : Text.IsOneLine ("limit" ++ ": " : Text) := by decide
  exact hstart.append (Text.isToken_of_isNumeral hn).one_line

theorem hasBreakdown_long_limit {digits : Text} (hn : Text.isNumeral digits = true)
    (h : Text.numeralLimit < digits.length) : HasBreakdown settings
      (effectiveLines Pattern.hashComment (entryText ("limit", digits) ++ ['\n'])) := by
  have hkey : ("limit" : Text) ∈ keys := by decide
  have hlines : effectiveLines Pattern.hashComment (entryText ("limit", digits) ++ ['\n']) =
      [entryText ("limit", digits)] := by
    rw [effectiveLines, Text.lines_append_lineFeed (isOneLine_limit hn)]
    exact List.filter_cons_of_pos (entryText_counts hkey)
  rw [hlines]
  exact ⟨[], _, [], rfl, fun other h => absurd h List.not_mem_nil, lineBreaksDown_long_limit hn h⟩

end Spec

end QueryFence
