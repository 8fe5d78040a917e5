import QueryFence.Files.Disk

/-!
The folder that commands work in: documents and the folder of the cache, under paths relative to it.
-/

namespace QueryFence

/-- The folder that commands work in. -/
structure Workplace where
  tree : FileTree
deriving DecidableEq, Repr

namespace Workplace

/-- A folder with the given texts under their paths. -/
def ofFiles (files : List (Text × Text)) : Workplace :=
  ⟨files.foldl (fun t (name, content) =>
    t.plant (FileTree.plainPath (FileTree.steps name)) (.file content)) []⟩

/-- The text of a file. -/
def find (w : Workplace) (path : Text) : Except StorageError Text :=
  w.tree.read (FileTree.steps path)

/-- Writes a file that can be read. -/
def write (w : Workplace) (path content : Text) : Workplace :=
  match w.tree.write (FileTree.steps path) content with
  | .ok t => ⟨t⟩
  | .error _ => w

/-- The files with a folder of theirs as the home of a program. -/
def disk (w : Workplace) (path : Text) : Disk := ⟨FileTree.steps path, w.tree⟩

/-- The files as a program has left them. -/
def ofDisk (disk : Disk) : Workplace := ⟨disk.tree⟩

/-- The names of the files in the folder itself. -/
def fileNames (w : Workplace) : List Text :=
  w.tree.filterMap fun
    | ([name], .file _) => some name
    | _ => none

/-- A text with every line ended by a line feed alone. -/
def unifyLineEnds : Text → Text
  | [] => []
  | '\r' :: '\n' :: rest => '\n' :: unifyLineEnds rest
  | '\r' :: rest => '\n' :: unifyLineEnds rest
  | c :: rest => c :: unifyLineEnds rest

/-- The text of a document. -/
def readDocument (w : Workplace) (path : Text) : Except StorageError Text :=
  match w.find path with
  | .ok content => .ok (unifyLineEnds content)
  | .error e => .error e

/-- What is told of a document that the file system does not give. -/
def unreadMessage (path : Text) (e : StorageError) : Text :=
  "❌ Cannot read " ++ path ++ ": [Errno " ++ Text.ofNat e.number ++ "] " ++ e.message ++ ": " ++
    Text.quoted (FileTree.written (FileTree.steps path)) ++ "\n"

end Workplace

end QueryFence
