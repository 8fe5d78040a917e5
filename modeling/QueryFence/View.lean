import QueryFence.Cell
import QueryFence.Text.CaseMap
import QueryFence.Spec.Reader
import QueryFence.Spec.Writer

/-!
The Markdown text of the outcome of a search: a table with a footer, a list, or an error above the
canonical fence of the block.
-/

namespace QueryFence

/-- What is shown while a search runs. -/
def loadingText : Text := "Loading..."

/-- The first element of a name in capitals, as the header of a compact column. -/
def firstCapital : Json → Except Fault Text
  | .text [] => .error .outOfRange
  | .text (c :: _) => .ok (Text.upper [c])
  | .list [] => .error .outOfRange
  | .list (.text t :: _) => .ok (Text.upper t)
  | .list (v :: _) => .error (.noAttribute v.kind "upper")
  | .object _ => .error .missingFirst
  | v => .error (.wrongKind ("'" ++ v.kind.name ++ "' object is not subscriptable"))

namespace Column

/-- What a column is called. -/
def name (settings : Settings) (c : Column) : Json :=
  match c.content with
  | .field kind => .text kind.title
  | .notes [] => .text "Notes"
  | .notes path => .text path
  | .custom id => (settings.customFields.nameOf? id).getD (.text id)

def header (settings : Settings) (c : Column) : Except Fault Text :=
  if c.compact then firstCapital (c.name settings) else .ok (Cell.escapeValue (c.name settings))

end Column

namespace Table

/-- A row of a table. -/
def row (cells : List Text) : Text := "| " ++ Text.joinWith " | " cells ++ " |"

/-- The line below the headers. -/
def ruleLine (columns : List Column) : Text :=
  "|" ++ Text.joinWith "|" (columns.map fun _ => " --- ".toList) ++ "|"

def issueRow (settings : Settings) (columns : List Column) (issue : Json) : Except Fault Text := do
  return row (← columns.mapM fun c => Cell.write settings c issue)

/-- The number of results and the account that gave them. -/
def totalLine (settings : Settings) (results : Json) : Except Fault Text := do
  let account ← results.item "account"
  let total ← results.item "total"
  let name ← account.item "alias"
  let line : Text := "Total results: " ++ total.display ++ " - " ++ name.display
  if settings.showColorBand then
    let color ← account.item "color"
    return (line ++ " (" ++ color.display ++ ")" : Text)
  else return line

/-- A table with its footer, up to the time of the last update. -/
def writeUpToTime (settings : Settings) (columns : List Column) (results : Json) :
    Except Fault Text := do
  let header := row (← columns.mapM (Column.header settings))
  let issues ← (← results.item "issues").items
  let rows ← issues.mapM (issueRow settings columns)
  let total ← totalLine settings results
  return Text.joinWith "\n" (header :: ruleLine columns :: rows) ++ "\n\n" ++ total ++
    "\nLast update: "

end Table

namespace IssueList

/-- A status behind a summary, unless it is void. -/
def statusText (status : Json) : Text :=
  if status.isVoid then [] else " (" ++ status.display ++ ")"

/-- A key, a summary on one line, and a status. -/
def lineText (key summary status : Json) : Text :=
  "- `" ++ key.display ++ "` " ++ Text.squeeze summary.display ++ statusText status

/-- The line of one issue. -/
def line (issue : Json) : Except Fault Text := do
  let fields ← issue.getD "fields" (.object [])
  let summary := (← fields.getD "summary" .null).orElse (.text [])
  let status ← ((← fields.getD "status" .null).orElse (.object [])).getD "name" (.text [])
  let key ← issue.getD "key" (.text [])
  return lineText key summary status

def write (results : Json) : Except Fault Text := do
  let issues ← (← results.item "issues").items
  return Text.joinWith "\n" (← issues.mapM line)

end IssueList

/-- An error, above the fence of the block it stands for if that could be read. -/
def errorText (settings : Settings) (message : Json) (spec : Option Spec) : Text :=
  "> [!error] Search error\n> " ++ Cell.escapeValue message ++
    (match spec with
      | some s => "\n\n" ++ s.fence settings
      | none => [])

end QueryFence
