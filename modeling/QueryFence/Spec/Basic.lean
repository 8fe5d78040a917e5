import QueryFence.Encoding.Md5
import QueryFence.Json.Writer

/-!
Search specifications: what a search block asks for, and how its result is shown.
-/

namespace QueryFence

/-- How results are shown. -/
inductive Mode
  | table
  | list
deriving DecidableEq, Repr

namespace Mode

def all : List Mode := [.table, .list]

/-- The word for a mode in a search block. -/
def word : Mode → Text
  | .table => "TABLE"
  | .list => "LIST"

def ofWord? (word : Text) : Option Mode := all.find? (·.word = word)

end Mode

/-- The plain fields of an issue. -/
inductive FieldKind
  | key
  | summary
  | description
  | type
  | created
  | updated
  | reporter
  | assignee
  | priority
  | status
  | dueDate
  | resolution
  | resolutionDate
  | project
  | environment
  | aggregateProgress
  | aggregateTimeEstimated
  | aggregateTimeOriginalEstimate
  | aggregateTimeSpent
  | fixVersions
  | labels
  | components
  | lastViewed
  | progress
  | timeEstimate
  | timeOriginalEstimate
  | timeSpent
  | devStatus
  | storyPoints
deriving DecidableEq, Repr

namespace FieldKind

def all : List FieldKind :=
  [.key, .summary, .description, .type, .created, .updated, .reporter, .assignee, .priority,
    .status, .dueDate, .resolution, .resolutionDate, .project, .environment, .aggregateProgress,
    .aggregateTimeEstimated, .aggregateTimeOriginalEstimate, .aggregateTimeSpent, .fixVersions,
    .labels, .components, .lastViewed, .progress, .timeEstimate, .timeOriginalEstimate, .timeSpent,
    .devStatus, .storyPoints]

/-- The word for a field in a search block. -/
def word : FieldKind → Text
  | .key => "KEY"
  | .summary => "SUMMARY"
  | .description => "DESCRIPTION"
  | .type => "TYPE"
  | .created => "CREATED"
  | .updated => "UPDATED"
  | .reporter => "REPORTER"
  | .assignee => "ASSIGNEE"
  | .priority => "PRIORITY"
  | .status => "STATUS"
  | .dueDate => "DUE_DATE"
  | .resolution => "RESOLUTION"
  | .resolutionDate => "RESOLUTION_DATE"
  | .project => "PROJECT"
  | .environment => "ENVIRONMENT"
  | .aggregateProgress => "AGGREGATE_PROGRESS"
  | .aggregateTimeEstimated => "AGGREGATE_TIME_ESTIMATED"
  | .aggregateTimeOriginalEstimate => "AGGREGATE_TIME_ORIGINAL_ESTIMATE"
  | .aggregateTimeSpent => "AGGREGATE_TIME_SPENT"
  | .fixVersions => "FIX_VERSIONS"
  | .labels => "LABELS"
  | .components => "COMPONENTS"
  | .lastViewed => "LAST_VIEWED"
  | .progress => "PROGRESS"
  | .timeEstimate => "TIME_ESTIMATE"
  | .timeOriginalEstimate => "TIME_ORIGINAL_ESTIMATE"
  | .timeSpent => "TIME_SPENT"
  | .devStatus => "DEV_STATUS"
  | .storyPoints => "STORY_POINTS"

def ofWord? (word : Text) : Option FieldKind := all.find? (·.word = word)

/-- The header over a field. -/
def title : FieldKind → Text
  | .key => "Key"
  | .summary => "Summary"
  | .description => "Description"
  | .type => "Type"
  | .created => "Created"
  | .updated => "Updated"
  | .reporter => "Reporter"
  | .assignee => "Assignee"
  | .priority => "Priority"
  | .status => "Status"
  | .dueDate => "Due Date"
  | .resolution => "Resolution"
  | .resolutionDate => "Resolution Date"
  | .project => "Project"
  | .environment => "Environment"
  | .aggregateProgress => "#Progress"
  | .aggregateTimeEstimated => "#🕑Estimated"
  | .aggregateTimeOriginalEstimate => "#🕑Original Estimate"
  | .aggregateTimeSpent => "#🕑Spent"
  | .fixVersions => "Fix Versions"
  | .labels => "Labels"
  | .components => "Components"
  | .lastViewed => "Last Viewed"
  | .progress => "Progress"
  | .timeEstimate => "🕑Estimate"
  | .timeOriginalEstimate => "🕑Original Estimate"
  | .timeSpent => "🕑Spent"
  | .devStatus => "Dev Status"
  | .storyPoints => "Story Points"

end FieldKind

/-- What a column shows. -/
inductive Content
  /-- A plain field. -/
  | field (kind : FieldKind)
  /-- A value from the front matter of notes on the issue, at a dotted path. -/
  | notes (path : Text)
  /-- The custom field with an id. -/
  | custom (id : Text)
deriving DecidableEq, Repr

/-- A table column. A compact one has a header of one letter. -/
structure Column where
  compact : Bool
  content : Content
deriving DecidableEq, Repr

namespace Column

/-- The word for a column of notes. -/
def notesWord : Text := "NOTES"

/-- The word for the kind of a column of a custom field. -/
def customWord : Text := "CUSTOM_FIELD"

/-- The word for the kind of a column. -/
def kindWord (c : Column) : Text :=
  match c.content with
  | .field kind => kind.word
  | .notes _ => notesWord
  | .custom _ => customWord

end Column

/-- The largest number of issues asked for. -/
structure Limit where
  value : Nat
  positive : 0 < value
deriving DecidableEq, Repr

structure Spec where
  mode : Mode
  query : Text
  limit : Option Limit
  columns : List Column
deriving DecidableEq, Repr

namespace Spec

/-- A table of everything, with the default columns. -/
def empty : Spec := ⟨.table, [], none, []⟩

/-- What searches have in common that ask for the same: query and limit as a JSON list. -/
def keyText (s : Spec) : Text :=
  Json.write (.list [.text s.query, match s.limit with
    | some limit => .int limit.value
    | none => .null])

/-- The key under which the outcome of a search is stored. -/
def cacheKey (s : Spec) : Text := Md5.hexDigest s.keyText

end Spec

end QueryFence
