import QueryFence.Json.Reader
import QueryFence.Settings.Basic

/-!
Settings from variables of the environment and from a file of variables. Names count without regard
to case, values of structured settings are JSON, and the environment counts before the file.
-/

namespace QueryFence

/-- Why settings cannot be read. -/
inductive SettingsFailure
  /-- A structured setting is not JSON. -/
  | unread (name : Text)
  | invalid (problems : List Problem)
deriving DecidableEq, Repr

namespace Settings

/-- The settings whose values are JSON. -/
def structuredNames : List Text := ["jira_accounts", "custom_fields"]

/-- The settings whose values are plain text. -/
def plainNames : List Text :=
  ["search_results_limit", "search_columns", "compact_symbol", "comment_pattern",
    "show_color_band", "cache_dir", "cache_ttl_hours", "request_timeout", "max_retries"]

/-- The last variable of a name, in whatever case it is written. -/
def findVariable (defined : List (Text × Text)) (name : Text) : Option Text :=
  (defined.reverse.find? fun v => Text.lowerAscii v.1 = name).map (·.2)

/-- A structured setting among variables; null stands for none. -/
def structuredMember (defined : List (Text × Text)) (name : Text) :
    Except SettingsFailure (List (Text × Json)) :=
  match findVariable defined name with
  | none => .ok []
  | some t =>
    match Json.read t with
    | .ok .null => .ok []
    | .ok v => .ok [(name, v)]
    | .error _ => .error (.unread name)

/-- The settings among variables. -/
def members (defined : List (Text × Text)) : Except SettingsFailure (List (Text × Json)) := do
  let structured ← structuredNames.mapM (structuredMember defined)
  let plain := plainNames.filterMap fun name =>
    (findVariable defined name).map fun t => (name, Json.text t)
  return structured.flatten ++ plain

/-- Two values of one setting: objects are merged, and of others the second counts. -/
def mergeValue : Json → Json → Json
  | .object first, .object second =>
    .object (second.foldl (fun members (name, v) => Assoc.put name v members) first)
  | _, second => second

/-- The members of both, the second before the first. -/
def merge (first second : List (Text × Json)) : List (Text × Json) :=
  second.foldl (fun members (name, v) =>
    match members.lookup name with
    | some old => Assoc.put name (mergeValue old v) members
    | none => members ++ [(name, v)]) first

/-- The settings that the environment and a file of variables make. -/
def ofVariables (environment file : List (Text × Text)) : Except SettingsFailure Settings := do
  let first ← members environment
  let second ← members file
  match (check (merge second first)).toExcept with
  | .ok settings => return settings
  | .error problems => throw (.invalid problems)

end Settings

end QueryFence
