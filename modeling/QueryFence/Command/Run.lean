import QueryFence.Cache.File
import QueryFence.Command.Basic
import QueryFence.Command.Workplace
import QueryFence.Failure
import QueryFence.Rounds
import QueryFence.Settings.Fields
import QueryFence.Settings.VariableFile

/-!
Running commands: what each prints, how it exits, and how it leaves the folder it works in.
-/

namespace QueryFence

/-- What a command comes to. -/
inductive CommandResult
  /-- The arguments are not understood. -/
  | usage
  | finished (exit : Nat) (stdout stderr : Text)
  | failed (failure : Failure)

namespace Command

/-- What a command works with. -/
structure Desk where
  settings : Settings
  ttl : Span
  now : Instant

variable {ε : Type}

/-- The cache of a desk. -/
def Desk.cache (d : Desk) (w : Workplace) : FileCache := ⟨d.ttl, w.disk d.settings.cacheFolder⟩

/-- The end of a command whose document is not read. A path that is none is not looked up at all. -/
def unread (file : Text) : StorageError → CommandResult
  | .nullCharacter => .failed (.fault (.storage .nullCharacter))
  | e => .finished 1 [] (Workplace.unreadMessage file e)

/-- Prints the document with its search blocks rendered. -/
def runRender (answer : (q : Jira.Action) → ε → q.Reply × ε) (d : Desk) (file : Text)
    (refresh : Bool) (w : Workplace) (world : ε) : CommandResult × Workplace × ε :=
  match (Jira.discover d.settings).run answer world with
  | (.error failure, world) => (.failed (.ofSearch failure), w, world)
  | (.ok found, world) =>
    match Hub.of (Jira.complete d.settings found) with
    | .error failure => (.failed (.ofSpec failure), w, world)
    | .ok hub =>
      match w.readDocument file with
      | .error e => (unread file e, w, world)
      | .ok document =>
        let service := Jira.service (Jira.Client.of d.settings Jira.usualBackoff) answer
        match Document.render service hub d.now refresh document (d.cache w) world with
        | (.error fault, cache, world) => (.failed (.fault fault), .ofDisk cache.disk, world)
        | (.ok t, cache, world) => (.finished 0 (t ++ "\n") [], .ofDisk cache.disk, world)

/-- Prints the document with its search blocks in canonical form, or writes it back. -/
def runFormat (answer : (q : Jira.Action) → ε → q.Reply × ε) (d : Desk) (file : Text)
    (write : Bool) (w : Workplace) (world : ε) : CommandResult × Workplace × ε :=
  match (Jira.discover d.settings).run answer world with
  | (.error failure, world) => (.failed (.ofSearch failure), w, world)
  | (.ok found, world) =>
    match w.readDocument file with
    | .error e => (unread file e, w, world)
    | .ok document =>
      match Document.normalize (Jira.complete d.settings found) document with
      | .error fault => (.failed (.fault fault), w, world)
      | .ok t =>
        if write then
          (.finished 0 ("✨ Formatted " ++ file ++ "\n") [], w.write file t, world)
        else (.finished 0 (t ++ "\n") [], w, world)

/-- Fields by their names. Names any two of which have no order cannot be sorted. -/
def sortFields (table : FieldTable) : Except Fault FieldTable :=
  if Json.areOrdered (table.map (·.2)) then
    .ok (table.mergeSort fun a b => a.2.isAtMost b.2)
  else .error (.wrongKind "'<' not supported between these names")

def fieldLines (table : FieldTable) : Text :=
  table.flatMap fun (id, name) => id ++ '\t' :: name.display ++ "\n"

/-- Prints the custom fields of the first account. -/
def runFields (answer : (q : Jira.Action) → ε → q.Reply × ε) (d : Desk) (world : ε) :
    CommandResult × ε :=
  match (Jira.customFields (Jira.Client.of d.settings Jira.usualBackoff)).run answer world with
  | (.error (.fetch message), world) =>
    (.finished 1 [] ("❌ Error loading custom fields: " ++ message ++ "\n"), world)
  | (.error failure, world) => (.failed (.ofSearch failure), world)
  | (.ok table, world) =>
    match sortFields table with
    | .ok table => (.finished 0 (fieldLines table) [], world)
    | .error fault => (.failed (.fault fault), world)

def runClear (d : Desk) (w : Workplace) : CommandResult × Workplace :=
  let ((), cache) := (d.cache w).perform FileCache.clear
  (.finished 0 "🗑️ Cache cleared\n" [], .ofDisk cache.disk)

/-- The name of the file of variables. -/
def variablesFile : Text := ".env"

/-- Settings from the environment and the file of variables. -/
def readSettings (w : Workplace) (environment : List (Text × Text)) :
    Except SettingsFailure Settings :=
  let file := match w.find variablesFile with
    | .ok t => VariableFile.read environment (Workplace.unifyLineEnds t)
    | .error _ => []
  Settings.ofVariables environment file

/-- Runs a command: the settings are read and the folder of the cache is made before all else. -/
def run (answer : (q : Jira.Action) → ε → q.Reply × ε) (environment : List (Text × Text))
    (now : Instant) (arguments : List Text) (w : Workplace) (world : ε) :
    CommandResult × Workplace × ε :=
  match read arguments with
  | none => (.usage, w, world)
  | some command =>
    match readSettings w environment with
    | .error failure => (.failed (.settings failure), w, world)
    | .ok settings =>
      match Span.ofHours (.float settings.cacheHours) with
      | .error fault => (.failed (.fault fault), w, world)
      | .ok ttl =>
        match FileCache.attach ttl (w.disk settings.cacheFolder) with
        | (.error e, cache) => (.failed (.fault (.storage e)), .ofDisk cache.disk, world)
        | (.ok (), cache) =>
          let d : Desk := ⟨settings, ttl, now⟩
          let w := Workplace.ofDisk cache.disk
          match command with
          | .render file refresh => runRender answer d file refresh w world
          | .format file write => runFormat answer d file write w world
          | .clearCache =>
            let (result, w) := runClear d w
            (result, w, world)
          | .fields =>
            let (result, world) := runFields answer d world
            (result, w, world)

end Command

end QueryFence
