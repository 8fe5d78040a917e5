import QueryFence.Command.Run
import Std.Time.Zoned

/-!
The command line: it brings the files, the environment and the time to a command, and carries its
changes back. It has no network of its own, so that a search finds what the cache holds or fails.
-/

namespace QueryFence.Shell

/-- The variables that settings are read from. -/
def variableNames : List Text :=
  let names := Settings.structuredNames ++ Settings.plainNames
  names.map (·.map Char.toUpper) ++ names

def readEnvironment : IO (List (Text × Text)) :=
  variableNames.filterMapM fun name => do
    return (← IO.getEnv (String.ofList name)).map fun value => (name, value.toList)

/-- The text of a file, where there is one. -/
def readText? (name : Text) : IO (Option Text) := do
  try
    return some (← IO.FS.readFile (String.ofList name)).toList
  catch _ => return none

/-- Adds the file at a path, where there is one. -/
def addFile (t : FileTree) (name : Text) : IO FileTree := do
  match ← readText? name with
  | some content => return t.plant (FileTree.plainPath (FileTree.steps name)) (.file content)
  | none => return t

/-- Adds a folder with its files, where there is one. -/
def addFolder (t : FileTree) (name : Text) : IO FileTree := do
  let folder := FileTree.plainPath (FileTree.steps name)
  let path := (← IO.currentDir) / String.ofList name
  if ← path.isDir then
    let t := if folder.isEmpty then t else t.plant folder .folder
    (← path.readDir).foldlM (fun t entry => do
      let inner := folder ++ [entry.fileName.toList]
      if ← entry.path.isDir then return t.plant inner .folder
      else
        match ← readText? entry.path.toString.toList with
        | some content => return t.plant inner (.file content)
        | none => return t) t
  else return t

/-- Brings the files from one state to another. -/
def writeTree (before after : FileTree) : IO Unit := do
  for (path, node) in before do
    if (after.lookup path).isNone then
      match node with
      | .folder => pure ()
      | _ => IO.FS.removeFile (String.ofList (FileTree.written path))
  for (path, node) in after do
    if before.lookup path != some node then
      match node with
      | .file content =>
        IO.FS.writeFile (String.ofList (FileTree.written path)) (String.ofList content)
      | .folder => IO.FS.createDirAll (String.ofList (FileTree.written path))
      | .link _ => pure ()

/-- The answers where no network is. -/
def offline : (q : Jira.Action) → Unit → q.Reply × Unit
  | .pause _, u => ((), u)
  | .send _, u => (.failed "no network", u)

def now : IO Instant := do
  let t ← Std.Time.PlainDateTime.now
  let date : Date := ⟨t.year.toInt.toNat, t.month.val.toNat, t.day.val.toNat⟩
  return .ofParts date t.hour.val.toNat t.minute.val.toNat t.second.val.toNat
    (t.nanosecond.val.toNat / 1000)

/-- The folder of the cache, as far as the settings can be read. -/
def cacheFolder? (w : Workplace) (environment : List (Text × Text)) : Option Text :=
  match Command.readSettings w environment with
  | .ok settings => some settings.cacheFolder
  | .error _ => none

/-- Runs a command and gives its exit code. -/
def run (arguments : List Text) : IO UInt32 := do
  let environment ← readEnvironment
  let files ← (Command.variablesFile :: arguments).foldlM addFile []
  let tree ← match cacheFolder? ⟨files⟩ environment with
    | some folder => addFolder files folder
    | none => pure files
  let (result, w, _) := Command.run offline environment (← now) arguments ⟨tree⟩ ()
  writeTree tree w.tree
  match result with
  | .usage =>
    IO.eprintln "usage: render FILE [--refresh] | format FILE [--write] | clear-cache | fields"
    return 2
  | .finished exit stdout stderr =>
    IO.print (String.ofList stdout)
    IO.eprint (String.ofList stderr)
    return exit.toUInt32
  | .failed failure =>
    IO.eprintln (String.ofList failure.message)
    return 1

end QueryFence.Shell

def main (arguments : List String) : IO UInt32 :=
  QueryFence.Shell.run (arguments.map String.toList)
