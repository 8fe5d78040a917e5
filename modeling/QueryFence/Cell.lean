import QueryFence.Calendar.Iso
import QueryFence.Json.Access
import QueryFence.Settings.Fields
import QueryFence.Spec.Basic

/-!
Table cells: the text that a column shows for an issue.
-/

namespace QueryFence.Cell

/-- Text on one line, with a backslash before every bar. -/
def escape (t : Text) : Text := Text.replaceChar '|' "\\|" (Text.squeeze t)

/-- The text of a value, escaped. -/
def escapeValue (v : Json) : Text := escape v.display

/-- The day of a time stamp; what names no day is shown as it is. -/
def dateText (t : Text) : Text :=
  match Iso.read (t.take 10) with
  | some moment => moment.instant.date.text
  | none => t

def ofDate (v : Json) : Except Fault Text :=
  if v.isVoid then .ok []
  else
    match v with
    | .text t => .ok (dateText t)
    | _ => .error (.wrongKind "fromisoformat: argument must be str")

/-- The parts of a duration that are not zero, with their units. -/
def joinParts (parts : List (Option Text × Text)) : Text :=
  let shown := parts.filterMap fun (amount, unit) => amount.map (· ++ unit)
  if shown.isEmpty then "0m" else Text.joinWith " " shown

def amountOfInt (n : Int) : Option Text := if n = 0 then none else some (Text.ofInt n)

def amountOfFloat (x : Binary64) : Option Text := if x.isZero then none else some x.text

/-- A duration in days of eight hours, hours and minutes; seconds are dropped. -/
def durationText (seconds : Int) : Text :=
  let minutes := seconds.fdiv 60
  let rest := minutes.fmod 480
  joinParts [(amountOfInt (minutes.fdiv 480), "d"), (amountOfInt (rest.fdiv 60), "h"),
    (amountOfInt (rest.fmod 60), "m")]

/-- The same for a duration that is no whole number. -/
def floatDurationText (seconds : Binary64) : Text :=
  let (days, rest) := (seconds.floorDivMod 60).1.floorDivMod 480
  let (hours, minutes) := rest.floorDivMod 60
  joinParts [(amountOfFloat days, "d"), (amountOfFloat hours, "h"), (amountOfFloat minutes, "m")]

def ofDuration (v : Json) : Except Fault Text :=
  if v.isVoid then .ok []
  else
    match v with
    | .bool _ => .ok (durationText 1)
    | .int n => .ok (durationText n)
    | .float x => .ok (floatDurationText x)
    | _ => .error (.wrongKind ("unsupported operand type(s) for //: '" ++ v.kind.name ++
        "' and 'int'"))

/-- The attributes by which an object is shown, the first of them that it has. -/
def shownAttributes : List Text := ["value", "name", "displayName"]

mutual

/-- The text of a value of unknown shape. -/
def ofValue : Json → Text
  | .null => []
  | .object members =>
    match shownAttributes.findSome? fun name => members.lookup name with
    | some v => escapeValue v
    | none => []
  | .list items => Text.joinWith ", " (ofValues items)
  | v => escapeValue v

def ofValues : List Json → List Text
  | [] => []
  | v :: rest => ofValue v :: ofValues rest

end

/-- Where a plain field stands in an issue and what it holds there. -/
inductive Source
  | key
  | text (field : Text)
  /-- An object, shown by one of its attributes. -/
  | named (field shown : Text)
  | date (field : Text)
  | duration (field : Text)
  | progress (field : Text)
  /-- A list of objects with names. -/
  | names (field : Text)
  | labels
  | storyPoints
  /-- It is not part of an issue. -/
  | absent

def sourceOf : FieldKind → Source
  | .key => .key
  | .summary => .text "summary"
  | .description => .text "description"
  | .environment => .text "environment"
  | .type => .named "issuetype" "name"
  | .reporter => .named "reporter" "displayName"
  | .assignee => .named "assignee" "displayName"
  | .priority => .named "priority" "name"
  | .status => .named "status" "name"
  | .resolution => .named "resolution" "name"
  | .project => .named "project" "key"
  | .created => .date "created"
  | .updated => .date "updated"
  | .dueDate => .date "duedate"
  | .resolutionDate => .date "resolutiondate"
  | .lastViewed => .date "lastViewed"
  | .aggregateTimeEstimated => .duration "aggregatetimeestimate"
  | .aggregateTimeOriginalEstimate => .duration "aggregatetimeoriginalestimate"
  | .aggregateTimeSpent => .duration "aggregatetimespent"
  | .timeEstimate => .duration "timeestimate"
  | .timeOriginalEstimate => .duration "timeoriginalestimate"
  | .timeSpent => .duration "timespent"
  | .aggregateProgress => .progress "aggregateprogress"
  | .progress => .progress "progress"
  | .fixVersions => .names "fixVersions"
  | .components => .names "components"
  | .labels => .labels
  | .storyPoints => .storyPoints
  | .devStatus => .absent

/-- The name of the custom field that holds story points. -/
def storyPointsName : Text := "Story Points"

/-- The field of an issue that holds a custom field. -/
def customName (id : Text) : Text := "customfield_" ++ id

/-- The custom field with an id. -/
def ofCustom (fields : Json) (id : Text) : Except Fault Text := do
  return ofValue (← fields.getD (customName id) .null)

def ofProgress (progress : Json) : Except Fault Text := do
  if ← progress.contains "percent" then return (← progress.item "percent").display ++ "%"
  else return []

/-- The names in a list of objects, with commas between them. -/
def ofNames (items : List Json) : Except Fault Text := do
  let names ← items.mapM fun v => v.getD "name" (.text [])
  return Text.joinWith ", " (names.map escapeValue)

def ofField (settings : Settings) (issue fields : Json) (kind : FieldKind) : Except Fault Text :=
  match sourceOf kind with
  | .key => do return escapeValue (← issue.getD "key" (.text []))
  | .text field => do return escapeValue ((← fields.getD field .null).orElse (.text []))
  | .named field shown => do
    let holder := (← fields.getD field .null).orElse (.object [])
    return escapeValue (← holder.getD shown (.text []))
  | .date field => do ofDate (← fields.getD field .null)
  | .duration field => do ofDuration (← fields.getD field .null)
  | .progress field => do ofProgress ((← fields.getD field .null).orElse (.object []))
  | .names field => do ofNames (← ((← fields.getD field .null).orElse (.list [])).items)
  | .labels => do
    let labels ← ((← fields.getD "labels" .null).orElse (.list [])).items
    return Text.joinWith ", " (labels.map escapeValue)
  | .storyPoints => do
    match ← settings.customFields.idOf? storyPointsName with
    | some id => ofCustom fields id
    | none => return []
  | .absent => return []

/-- The text of a column for an issue. Notes are not part of an issue. -/
def write (settings : Settings) (column : Column) (issue : Json) : Except Fault Text := do
  let fields ← issue.getD "fields" (.object [])
  match column.content with
  | .field kind => ofField settings issue fields kind
  | .notes _ => return []
  | .custom id => ofCustom fields id

end QueryFence.Cell
