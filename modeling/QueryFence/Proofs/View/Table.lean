import QueryFence.Cache.Memory
import QueryFence.Proofs.Rounds.Ending
import QueryFence.Proofs.Settings.Grammar
import QueryFence.Proofs.Text.Joined
import QueryFence.Proofs.View.Cells

/-!
When the text of a table is a table: one line for the headers, one below them, and one for each issue,
with a cell for each column. Headers in capitals and dates that name no day are written as they are, so
a bar or the end of a line in one of them breaks the row; all else stays in its cell.
-/

namespace QueryFence

open QueryFence.Steps

open QueryFence.Text (IsOneLine IsPlain openBars)

namespace Json

/-- Whether a name starts with something that can be written in capitals in one cell. -/
def HasPlainInitial : Json → Prop
  | .text (c :: _) => c ≠ '|' ∧ Text.isLineEnd c = false
  | .list (.text t :: _) => IsPlain t
  | _ => False

end Json

namespace Column

variable {settings : Settings} {c : Column}

/-- Whether the header of a column stays in its cell: that of a compact one is the first of its name. -/
def HasPlainHeader (settings : Settings) (c : Column) : Prop :=
  c.compact = true → (c.name settings).HasPlainInitial

theorem isPlain_singleton_iff {c : Char} : IsPlain [c] ↔ c ≠ '|' ∧ Text.isLineEnd c = false := by
  have hbars : openBars [c] = 0 ↔ c ≠ '|' := by
    simp [openBars, Text.openBarsBehind]
  rw [IsPlain, hbars, and_comm, IsOneLine, List.forall_mem_singleton]

theorem exists_firstCapital_iff {name : Json} :
    (∃ t, firstCapital name = .ok t ∧ IsPlain t) ↔ name.HasPlainInitial := by
  have hupper : ∀ s, (∃ t, (.ok (Text.upper s) : Except Fault Text) = .ok t ∧ IsPlain t) ↔
      IsPlain s := by
    intro s
    rw [← Text.isPlain_upper_iff]
    exact ⟨fun ⟨t, ht, hp⟩ => Except.ok.inj ht ▸ hp, fun hp => ⟨_, rfl, hp⟩⟩
  cases name with
  | text t =>
    cases t with
    | nil => exact ⟨fun ⟨_, h, _⟩ => (nomatch h), False.elim⟩
    | cons c t => exact (hupper [c]).trans isPlain_singleton_iff
  | list items =>
    cases items with
    | nil => exact ⟨fun ⟨_, h, _⟩ => (nomatch h), False.elim⟩
    | cons item items =>
      cases item with
      | text t => exact hupper t
      | _ => exact ⟨fun ⟨_, h, _⟩ => (nomatch h), False.elim⟩
  | _ => exact ⟨fun ⟨_, h, _⟩ => (nomatch h), False.elim⟩

theorem exists_header_iff :
    (∃ t, c.header settings = .ok t ∧ IsPlain t) ↔ c.HasPlainHeader settings := by
  rw [header, HasPlainHeader]
  cases c.compact with
  | true =>
    rw [if_pos rfl, exists_firstCapital_iff]
    exact ⟨fun h _ => h, fun h => h rfl⟩
  | false =>
    rw [if_neg Bool.false_ne_true]
    exact iff_of_true ⟨_, rfl, Cell.isPlain_escapeValue _⟩ fun h => absurd h Bool.false_ne_true

end Column

namespace Table

variable {columns : List Column} {cells : List Text}

/-- A row with as many cells as there are columns. -/
def IsRow (columns : Nat) (line : Text) : Prop := IsOneLine line ∧ openBars line = columns + 1

/-- A table above its footer: lines with a cell for each column, two of them above the rows. -/
def IsTable (columns rows : Nat) (footer t : Text) : Prop :=
  ∃ lines : List Text, t = Text.joinWith "\n" lines ++ "\n\n" ++ footer ∧ lines.length = rows + 2 ∧
    ∀ line ∈ lines, IsRow columns line

theorem openBars_row (cell : Text) (cells : List Text) : openBars (row (cell :: cells)) =
    ((cell :: cells).map openBars).sum + (cells.length + 2) := by
  have hstart : ∀ t, openBars ("| ".toList ++ t) = 1 + openBars t := fun t => by
    simp [openBars, Text.openBarsBehind]
  have hstop : ∀ t, openBars (t ++ " |".toList) = openBars t + 1 := fun t => by
    rw [openBars, Text.openBarsBehind_append]
    simp [openBars, Text.openBarsBehind]
  rw [row, hstop, hstart, Text.openBars_joinWith Text.isDivider_bar]
  omega

theorem isRow_row_iff (hne : cells ≠ []) :
    IsRow cells.length (row cells) ↔ ∀ cell ∈ cells, IsPlain cell := by
  obtain ⟨cell, cells, rfl⟩ := List.exists_cons_of_ne_nil hne
  have hline : IsOneLine (row (cell :: cells)) ↔ ∀ c ∈ cell :: cells, IsOneLine c := by
    rw [row, Text.isOneLine_append_iff, Text.isOneLine_append_iff, and_iff_left (by decide),
      and_iff_right (by decide)]
    exact Text.isOneLine_joinWith_iff (by decide)
  have hbars : openBars (row (cell :: cells)) = (cell :: cells).length + 1 ↔
      ∀ c ∈ cell :: cells, openBars c = 0 := by
    rw [openBars_row, List.length_cons, ← List.forall_mem_map (f := openBars) (P := (· = 0)),
      ← List.sum_eq_zero_iff_forall_eq_nat]
    omega
  rw [IsRow, hline, hbars, ← forall₂_and]
  rfl

theorem openBarsBehind_rule (before : Char) (c : Column) (columns : List Column) :
    Text.openBarsBehind before
      (Text.joinWith "|" ((c :: columns).map fun _ => " --- ".toList) ++ "|".toList) =
      columns.length + 1 := by
  have hmark : ∀ before rest, Text.openBarsBehind before (" --- ".toList ++ '|' :: rest) =
      1 + Text.openBarsBehind '|' rest := fun before rest => by simp [Text.openBarsBehind]
  induction columns generalizing before c with
  | nil => exact hmark before []
  | cons next columns ih =>
    have hjoined : Text.joinWith "|" ((c :: next :: columns).map fun _ => " --- ".toList) ++ "|".toList =
        " --- ".toList ++ '|' ::
          (Text.joinWith "|" ((next :: columns).map fun _ => " --- ".toList) ++ "|".toList) := by
      rw [List.map_cons, List.map_cons, Text.joinWith, List.intercalate_cons_cons]
      rfl
    rw [hjoined, hmark, ih, List.length_cons]
    omega

theorem isRow_ruleLine (hne : columns ≠ []) : IsRow columns.length (ruleLine columns) := by
  obtain ⟨c, columns, rfl⟩ := List.exists_cons_of_ne_nil hne
  constructor
  · have hparts : ∀ part ∈ (c :: columns).map fun _ => " --- ".toList, IsOneLine part :=
      List.forall_mem_map.2 fun _ _ => by decide
    exact .append (.append (by decide) (.joinWith (by decide) hparts)) (by decide)
  · rw [ruleLine, List.append_assoc, openBars, Text.openBarsBehind_append, openBarsBehind_rule,
      List.length_cons]
    exact Nat.add_comm _ _

theorem isTable_joinWith_iff {columns rows : Nat} {lines : List Text} {footer : Text}
    (hlength : lines.length = rows + 2) :
    IsTable columns rows footer (Text.joinWith "\n" lines ++ "\n\n" ++ footer) ↔
      ∀ line ∈ lines, IsRow columns line := by
  constructor
  · rintro ⟨others, htext, hothers, hrows⟩
    have hjoined := List.append_cancel_right (List.append_cancel_right htext)
    have hfeed : ∀ line ∈ others, '\n' ∉ line := fun line hl hm =>
      absurd ((hrows line hl).1 _ hm) (by decide)
    rw [Text.joinWith_lineFeed_inj (hlength.trans hothers.symm) hfeed hjoined]
    exact hrows
  · intro h
    exact ⟨lines, rfl, hlength, h⟩

variable {settings : Settings} {results issue : Json} {issues : List Json} {total : Text}

/-- Cells that are written one by one make a row when each of them is plain. -/
theorem exists_row_iff {f : Column → Except Fault Text} (hne : columns ≠ []) :
    (∃ cells, columns.mapM f = .ok cells ∧ IsRow columns.length (row cells)) ↔
      ∀ c ∈ columns, ∃ t, f c = .ok t ∧ IsPlain t := by
  rw [← exists_mapM_forall_iff]
  refine exists_congr fun cells => and_congr_right fun hcells => ?_
  have hlength := length_of_mapM hcells
  have hcells : cells ≠ [] := List.length_pos_iff.1 (hlength ▸ List.length_pos_iff.2 hne)
  rw [← hlength, isRow_row_iff hcells]

theorem exists_issueRow_iff (hne : columns ≠ []) :
    (∃ line, issueRow settings columns issue = .ok line ∧ IsRow columns.length line) ↔
      ∀ c ∈ columns, ∃ t, Cell.write settings c issue = .ok t ∧ IsPlain t := by
  rw [← exists_row_iff hne]
  constructor
  · rintro ⟨line, h, hrow⟩
    obtain ⟨cells, hcells, h⟩ := bind_eq_ok_iff.1 h
    cases h
    exact ⟨cells, hcells, hrow⟩
  · rintro ⟨cells, hcells, hrow⟩
    exact ⟨row cells, bind_eq_ok_iff.2 ⟨cells, hcells, rfl⟩, hrow⟩

theorem writeUpToTime_eq_ok_iff {body : Text}
    (hissues : (results.item "issues" >>= Json.items) = .ok issues)
    (htotal : totalLine settings results = .ok total) :
    writeUpToTime settings columns results = .ok body ↔ ∃ headers rows,
      columns.mapM (Column.header settings) = .ok headers ∧
      issues.mapM (issueRow settings columns) = .ok rows ∧
      body = Text.joinWith "\n" (row headers :: ruleLine columns :: rows) ++ "\n\n" ++ total ++
        "\nLast update: " := by
  obtain ⟨items, hitems, hissues⟩ := bind_eq_ok_iff.1 hissues
  rw [writeUpToTime]
  constructor
  · intro h
    obtain ⟨headers, hheaders, h⟩ := bind_eq_ok_iff.1 h
    rw [hitems] at h
    obtain ⟨_, hi, h⟩ := bind_eq_ok_iff.1 h
    cases hi
    rw [hissues] at h
    obtain ⟨_, hi, h⟩ := bind_eq_ok_iff.1 h
    cases hi
    obtain ⟨rows, hrows, h⟩ := bind_eq_ok_iff.1 h
    rw [htotal] at h
    obtain ⟨_, hi, h⟩ := bind_eq_ok_iff.1 h
    cases hi
    cases h
    exact ⟨headers, rows, hheaders, hrows, rfl⟩
  · rintro ⟨headers, rows, hheaders, hrows, rfl⟩
    exact bind_eq_ok_iff.2 ⟨headers, hheaders, bind_eq_ok_iff.2 ⟨items, hitems,
      bind_eq_ok_iff.2 ⟨issues, hissues, bind_eq_ok_iff.2 ⟨rows, hrows,
        bind_eq_ok_iff.2 ⟨total, htotal, rfl⟩⟩⟩⟩⟩

/-- A table with its footer is a table when every header and every cell is plain. -/
theorem exists_isTable_iff (hissues : (results.item "issues" >>= Json.items) = .ok issues)
    (htotal : totalLine settings results = .ok total) (time : Text) :
    (∃ body, writeUpToTime settings columns results = .ok body ∧
      IsTable columns.length issues.length (total ++ "\nLast update: " ++ time) (body ++ time)) ↔
    columns ≠ [] ∧ (∀ c ∈ columns, c.HasPlainHeader settings) ∧
      ∀ issue ∈ issues, ∀ c ∈ columns, ∃ t, Cell.write settings c issue = .ok t ∧ IsPlain t := by
  have htext : ∀ lines : Text, lines ++ "\n\n" ++ total ++ "\nLast update: " ++ time =
      lines ++ "\n\n" ++ (total ++ "\nLast update: " ++ time) := fun lines => by
    simp only [List.append_assoc]
  have hlength : ∀ headers {rows}, issues.mapM (issueRow settings columns) = .ok rows →
      (row headers :: ruleLine columns :: rows).length = issues.length + 2 := by
    intro headers rows hrows
    rw [List.length_cons, List.length_cons, length_of_mapM hrows]
  constructor
  · rintro ⟨body, hbody, htable⟩
    obtain ⟨headers, rows, hheaders, hrows, rfl⟩ := (writeUpToTime_eq_ok_iff hissues htotal).1 hbody
    rw [htext, isTable_joinWith_iff (hlength _ hrows), List.forall_mem_cons, List.forall_mem_cons] at htable
    obtain ⟨hheader, -, hrow⟩ := htable
    have hne : columns ≠ [] := by
      -- a header line without columns has two bars
      rintro rfl
      cases hheaders
      exact absurd hheader.2 (by decide)
    refine ⟨hne, fun c hc => ?_, fun issue hi => ?_⟩
    · exact Column.exists_header_iff.1 ((exists_row_iff hne).1 ⟨headers, hheaders, hheader⟩ c hc)
    · exact (exists_issueRow_iff hne).1 (exists_mapM_forall_iff.1 ⟨rows, hrows, hrow⟩ issue hi)
  · rintro ⟨hne, hheaders, hcells⟩
    obtain ⟨headers, hheaders, hheader⟩ := (exists_row_iff hne).2 fun c hc =>
      Column.exists_header_iff.2 (hheaders c hc)
    obtain ⟨rows, hrows, hrow⟩ := exists_mapM_forall_iff.2 fun issue hi =>
      (exists_issueRow_iff hne).2 (hcells issue hi)
    refine ⟨_, (writeUpToTime_eq_ok_iff hissues htotal).2 ⟨headers, rows, hheaders, hrows, rfl⟩, ?_⟩
    rw [htext, isTable_joinWith_iff (hlength _ hrows)]
    exact List.forall_mem_cons.2 ⟨hheader, List.forall_mem_cons.2 ⟨isRow_ruleLine hne, hrow⟩⟩

/-- An issue as Jira sends it: with fields of the kinds that the columns show. -/
def IsUsualIssue (columns : List Column) (issue : Json) : Prop :=
  ∃ own, issue.member? "fields" = some (.object own) ∧
    ∀ c ∈ columns, Cell.ContentIsUsual (.object own) c.content

/-- Results as a search gives them: the issues, their total, and the account that was asked. -/
structure IsUsual (columns : List Column) (results : Json) (issues : List Json) : Prop where
  list : results.member? "issues" = some (.list issues)
  total : ∃ total, results.member? "total" = some total
  account : ∃ account, results.member? "account" = some account ∧
    (∃ name, account.member? "alias" = some name) ∧ ∃ color, account.member? "color" = some color
  issues : ∀ issue ∈ issues, IsUsualIssue columns issue

/-- What keeps a table in shape: it has columns, headers in capitals and dates stay in their cells, and
story points can be looked for in the table of custom fields. -/
structure KeepsShape (settings : Settings) (columns : List Column) (issues : List Json) : Prop where
  nonempty : columns ≠ []
  headers : ∀ c ∈ columns, c.HasPlainHeader settings
  dates : ∀ issue ∈ issues, ∀ fields, issue.member? "fields" = some fields →
    ∀ c ∈ columns, Cell.ContentIsPlain fields c.content
  storyPoints : ∀ issue ∈ issues, ∀ c ∈ columns, c.content = .field .storyPoints →
    EndsWell (settings.customFields.idOf? Cell.storyPointsName)

theorem exists_cell_iff {c : Column} {fields : Json} (hfields : issue.member? "fields" = some fields)
    (hobject : fields.IsObject) (hu : Cell.ContentIsUsual fields c.content) :
    (∃ t, Cell.write settings c issue = .ok t ∧ IsPlain t) ↔
      Cell.ContentIsPlain fields c.content ∧ (c.content = .field .storyPoints →
        EndsWell (settings.customFields.idOf? Cell.storyPointsName)) := by
  rw [← Cell.fits_iff hfields hobject hu, ← Cell.endsWell_write_iff]
  constructor
  · rintro ⟨t, ht, hp⟩
    exact ⟨(Cell.isPlain_of_write ht hfields hu).1 hp, t, ht⟩
  · rintro ⟨hp, t, ht⟩
    exact ⟨t, ht, (Cell.isPlain_of_write ht hfields hu).2 hp⟩

theorem IsUsual.endsWell_totalLine (h : IsUsual columns results issues) :
    EndsWell (totalLine settings results) := by
  obtain ⟨total, htotal⟩ := h.total
  obtain ⟨account, haccount, ⟨name, hname⟩, color, hcolor⟩ := h.account
  refine endsWell_bind_iff.2 ⟨account, Json.item_of_member? haccount, endsWell_bind_iff.2
    ⟨total, Json.item_of_member? htotal, endsWell_bind_iff.2
      ⟨name, Json.item_of_member? hname, ?_⟩⟩⟩
  cases settings.showColorBand with
  | true => exact endsWell_bind_iff.2 ⟨color, Json.item_of_member? hcolor, endsWell_ok _⟩
  | false => exact endsWell_ok _

theorem keepsShape_iff (h : IsUsual columns results issues) : KeepsShape settings columns issues ↔
    columns ≠ [] ∧ (∀ c ∈ columns, c.HasPlainHeader settings) ∧
      ∀ issue ∈ issues, ∀ c ∈ columns, ∃ t, Cell.write settings c issue = .ok t ∧ IsPlain t := by
  constructor
  · rintro ⟨hne, hheaders, hdates, hpoints⟩
    refine ⟨hne, hheaders, fun issue hi c hc => ?_⟩
    obtain ⟨own, hown, hu⟩ := h.issues issue hi
    exact (exists_cell_iff hown ⟨own, rfl⟩ (hu c hc)).2
      ⟨hdates issue hi _ hown c hc, hpoints issue hi c hc⟩
  · rintro ⟨hne, hheaders, hcells⟩
    have hcell : ∀ issue ∈ issues, ∀ fields, issue.member? "fields" = some fields → ∀ c ∈ columns,
        Cell.ContentIsPlain fields c.content ∧ (c.content = .field .storyPoints →
          EndsWell (settings.customFields.idOf? Cell.storyPointsName)) := by
      intro issue hi fields hfields c hc
      obtain ⟨own, hown, hu⟩ := h.issues issue hi
      cases hfields.symm.trans hown
      exact (exists_cell_iff hown ⟨own, rfl⟩ (hu c hc)).1 (hcells issue hi c hc)
    refine ⟨hne, hheaders, fun issue hi fields hfields c hc => (hcell issue hi fields hfields c hc).1,
      fun issue hi c hc => ?_⟩
    obtain ⟨own, hown, -⟩ := h.issues issue hi
    exact (hcell issue hi _ hown c hc).2

end Table

namespace Cycle

variable {σ : Type} [ResultCache σ] {hub : Hub} {now : Instant} {spec : Spec} {results : Json}
  {issues : List Json} {s : Scene σ} {time : Text}

/-- The columns of a table: those of its block, or else those of the settings. -/
def shownColumns (hub : Hub) (spec : Spec) : List Column :=
  if spec.columns.isEmpty then hub.columns else spec.columns

/-- Whether showing results ends well, with a table above a footer that tells their total and a time. -/
def ShowsTable (hub : Hub) (now : Instant) (spec : Spec) (results : Json) (issues : List Json)
    (time : Text) (s : Scene σ) : Prop :=
  ∃ total, Table.totalLine hub.settings results = .ok total ∧
    ∃ t, shown ((showResults hub now spec results).run.run s) = .ok t ∧
      Table.IsTable (shownColumns hub spec).length issues.length
        (total ++ "\nLast update: " ++ time) t

/-- A table is shown as it is written, with the time behind it. -/
theorem shown_table_eq_ok_iff (hmode : spec.mode = .table) (hopen : s.display.closed = false)
    (htime : (ResultCache.getTime s.cache now spec.cacheKey).1 = .ok time) {t : Text} :
    shown ((showResults hub now spec results).run.run s) = .ok t ↔ ∃ body,
      Table.writeUpToTime hub.settings (shownColumns hub spec) results = .ok body ∧
        t = body ++ time := by
  rw [getTime_fst_eq] at htime
  rw [shown_showResults hopen, textOfResults, hmode, htime, shownColumns]
  dsimp only
  split
  · next fault hbody =>
    rw [hbody]
    constructor
    · intro h
      cases h
    · rintro ⟨_, h, -⟩
      cases h
  · next body hbody =>
    rw [hbody]
    constructor
    · intro h
      exact ⟨body, rfl, (Except.ok.inj h).symm⟩
    · rintro ⟨_, h, rfl⟩
      cases h
      rfl

/-- The results of a search are shown as a table exactly when it keeps its shape. -/
theorem showsTable_iff_keepsShape (hmode : spec.mode = .table) (hopen : s.display.closed = false)
    (hresults : Table.IsUsual (shownColumns hub spec) results issues)
    (htime : (ResultCache.getTime s.cache now spec.cacheKey).1 = .ok time) :
    ShowsTable hub now spec results issues time s ↔
      Table.KeepsShape hub.settings (shownColumns hub spec) issues := by
  obtain ⟨total, htotal⟩ : EndsWell (Table.totalLine hub.settings results) :=
    hresults.endsWell_totalLine
  have hissues : (results.item "issues" >>= Json.items) = .ok issues :=
    bind_eq_ok_iff.2 ⟨_, Json.item_of_member? hresults.list, rfl⟩
  rw [Table.keepsShape_iff hresults, ← Table.exists_isTable_iff hissues htotal time]
  constructor
  · rintro ⟨total', htotal', t, ht, htable⟩
    cases htotal.symm.trans htotal'
    obtain ⟨body, hbody, rfl⟩ := (shown_table_eq_ok_iff hmode hopen htime).1 ht
    exact ⟨body, hbody, htable⟩
  · rintro ⟨body, hbody, htable⟩
    exact ⟨total, htotal, _, (shown_table_eq_ok_iff hmode hopen htime).2 ⟨body, hbody, rfl⟩, htable⟩

/-- A due date with a bar that is no date: its row has a cell too many. -/
theorem not_showsTable_of_barred_date :
    let columns : List Column := [⟨false, .field .key⟩, ⟨false, .field .dueDate⟩]
    let hub : Hub := ⟨Settings.standard, []⟩
    let spec : Spec := ⟨.table, "a", none, columns⟩
    let fields : List (Text × Json) := [("duedate", .text "a|b")]
    let issue : Json := .object [("key", .text "K-1"), ("fields", .object fields)]
    let results : Json := .object [("issues", .list [issue]), ("total", .int 1),
      ("account", .object [("alias", .text "A"), ("color", .text "#0")])]
    let scene : Scene MemoryCache := ⟨.blank, .empty ⟨0⟩⟩
    let now : Instant := ⟨0⟩
    Spec.read hub.settings "query: a\ncolumns: KEY, DUE_DATE" = .ok spec ∧
      (spec.mode = .table ∧ scene.display.closed = false ∧
        Table.IsUsual (shownColumns hub spec) results [issue] ∧
        (ResultCache.getTime scene.cache now spec.cacheKey).1 = .ok "-".toList) ∧
      ¬ ShowsTable hub now spec results [issue] "-" scene := by
  intro columns hub spec fields issue results scene now
  have hsource : Cell.SourceIsUsual (.object fields) (.date "duedate") :=
    ⟨fields, rfl, .inr ⟨"a|b", rfl⟩⟩
  have hissue : Table.IsUsualIssue columns issue :=
    ⟨fields, rfl, List.forall_mem_cons.2 ⟨trivial, List.forall_mem_singleton.2 hsource⟩⟩
  have hresults : Table.IsUsual (shownColumns hub spec) results [issue] :=
    ⟨rfl, ⟨_, rfl⟩, ⟨_, rfl, ⟨_, rfl⟩, _, rfl⟩, List.forall_mem_singleton.2 hissue⟩
  have hread : Spec.read hub.settings "query: a\ncolumns: KEY, DUE_DATE" = .ok spec := by decide +kernel
  refine ⟨hread, ⟨rfl, rfl, hresults, rfl⟩, fun h => ?_⟩
  have hkeeps : Table.KeepsShape hub.settings (shownColumns hub spec) [issue] :=
    (showsTable_iff_keepsShape rfl rfl hresults rfl).1 h
  have hdate : Cell.SourceIsPlain (.object fields) (.date "duedate") :=
    hkeeps.dates issue List.mem_cons_self (.object fields) rfl ⟨false, .field .dueDate⟩
      (List.mem_cons_of_mem _ List.mem_cons_self)
  exact absurd (hdate "a|b" rfl) (by decide +kernel)

end Cycle

end QueryFence
