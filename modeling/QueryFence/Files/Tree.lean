import QueryFence.Assoc
import QueryFence.Fault

/-!
A tree of files: texts, folders and symbolic links below a top folder. Each stands under its path, so
that the tree is a list of paths with what is there; a written path is followed step by step, through
links and upwards too, before anything is read or changed.
-/

namespace QueryFence

inductive Node
  | file (content : Text)
  | folder
  | link (target : Text)
deriving DecidableEq, Repr

/-- The names of the folders that lead from the top folder to a place, and its own name. Outside the
top folder a path starts with steps up, or with the slash of the whole system. -/
abbrev Path := List Text

/-- What is below the top folder, in the order in which it was made. -/
abbrev FileTree := List (Path × Node)

/-- What a written path leads to. -/
inductive Place
  | file (path : Path) (content : Text)
  | folder (path : Path)
  /-- A name in a folder that is free to be made. -/
  | free (path : Path)
  | none (error : StorageError)
deriving DecidableEq, Repr

namespace FileTree

/-- The step to the folder above. -/
def up : Text := ".."

/-- The step to the folder of the whole system. -/
def root : Text := "/"

/-- The steps of a path as it is written. -/
def rawSteps (t : Text) : List Text :=
  let steps := t.splitOn '/'
  if t.head? = some '/' then root :: steps else steps

/-- A step that stays in its folder. -/
def staysHere (step : Text) : Bool := step = [] || step = "."

/-- The steps of a path without those that stay in place. -/
def steps (t : Text) : List Text := (rawSteps t).filter (!staysHere ·)

/-- The path that steps are written as. -/
def written : List Text → Text
  | [] => "."
  | first :: rest =>
    if first = root then '/' :: Text.joinWith "/" rest else Text.joinWith "/" (first :: rest)

/-- The folder above a folder. -/
def above (folder : Path) : Path :=
  match folder.getLast? with
  | none => [up]
  | some last =>
    if last = up then folder ++ [up] else if last = root then folder else folder.dropLast

/-- The most bytes that a name may have. -/
def nameLimit : Nat := 255

/-- The most bytes that a whole path may have. -/
def pathLimit : Nat := 4095

/-- Why a path is not even looked up. -/
def refusal? (steps : List Text) : Option StorageError :=
  if steps.any (·.contains '\x00') then some .nullCharacter
  else if pathLimit < (Text.utf8 (written steps)).length then some .nameTooLong
  else none

/-- The most links that are followed on one way. -/
def linkLimit : Nat := 40

/-- Follows steps from a folder, through no more than `links` links. -/
def walk (t : FileTree) (links : Nat) (folder : Path) : List Text → Place
  | [] => .folder folder
  | step :: rest =>
    if staysHere step then walk t links folder rest
    else if step = up then walk t links (above folder) rest
    else if step = root then walk t links [root] rest
    else if nameLimit < (Text.utf8 step).length then .none .nameTooLong
    else
      match t.lookup (folder ++ [step]) with
      | some .folder => walk t links (folder ++ [step]) rest
      | some (.file content) =>
        if rest.isEmpty then .file (folder ++ [step]) content else .none .notFolder
      | some (.link target) =>
        match links with
        | 0 => .none .circularLink
        | links + 1 => walk t links folder (rawSteps target ++ rest)
      | none => if rest.isEmpty then .free (folder ++ [step]) else .none .missing
termination_by steps => (links, steps.length)

/-- What steps from the top folder lead to. -/
def place (t : FileTree) (steps : List Text) : Place :=
  match refusal? steps with
  | some e => .none e
  | none => t.walk linkLimit [] steps

/-- Whether steps lead to a file or a folder. -/
def isThere (t : FileTree) (steps : List Text) : Bool :=
  match t.place steps with
  | .file _ _ | .folder _ => true
  | _ => false

def read (t : FileTree) (steps : List Text) : Except StorageError Text :=
  match t.place steps with
  | .file _ content => .ok content
  | .folder _ => .error .isFolder
  | .free _ => .error .missing
  | .none e => .error e

def write (t : FileTree) (steps : List Text) (content : Text) : Except StorageError FileTree :=
  match t.place steps with
  | .file path _ | .free path => .ok (Assoc.put path (.file content) t)
  | .folder _ => .error .isFolder
  | .none e => .error e

/-- The names in a folder. -/
def names (t : FileTree) (steps : List Text) : Except StorageError (List Text) :=
  match t.place steps with
  | .folder path =>
    .ok (t.filterMap fun (p, _) =>
      match p.getLast? with
      | some name => if p = path ++ [name] then some name else none
      | none => none)
  | .file _ _ => .error .notFolder
  | .free _ => .error .missing
  | .none e => .error e

/-- The path of a name in the folder that all steps but the last lead to. There is none where the
steps lead to a folder that has no name of its own there. -/
def slot (t : FileTree) (steps : List Text) : Except StorageError (Option Path) :=
  match refusal? steps, steps.getLast? with
  | some e, _ => .error e
  | none, none => .ok none
  | none, some last =>
    match t.place steps.dropLast with
    | .folder path =>
      if last = up || last = root then .ok none
      else if nameLimit < (Text.utf8 last).length then .error .nameTooLong
      else .ok (some (path ++ [last]))
    | .file _ _ => .error .notFolder
    | .free _ => .error .missing
    | .none e => .error e

/-- Removes a file, or a link and not what it leads to. -/
def unlink (t : FileTree) (steps : List Text) : Except StorageError FileTree :=
  match t.slot steps with
  | .error e => .error e
  | .ok none => .error .isFolder
  | .ok (some path) =>
    match t.lookup path with
    | some .folder => .error .isFolder
    | some _ => .ok (Assoc.erase path t)
    | none => .error .missing

/-- Makes a folder or a link under a free name. -/
def make (t : FileTree) (steps : List Text) (node : Node) : Except StorageError FileTree :=
  match t.slot steps with
  | .error e => .error e
  | .ok none => .error .exists
  | .ok (some path) =>
    if (t.lookup path).isSome then .error .exists else .ok (Assoc.put path node t)

/-- Makes a link, which must lead somewhere. -/
def makeLink (t : FileTree) (steps : List Text) (target : Text) : Except StorageError FileTree :=
  if target.contains '\x00' then .error .nullCharacter
  else if target.isEmpty then .error .missing
  else t.make steps (.link target)

def isFolder (t : FileTree) (steps : List Text) : Bool :=
  match t.place steps with
  | .folder _ => true
  | _ => false

/-- Makes a folder unless there is one; a missing folder above it is another matter. -/
def ensure (t : FileTree) (steps : List Text) : Except StorageError FileTree :=
  match t.make steps .folder with
  | .ok t => .ok t
  | .error .missing => .error .missing
  | .error e => if t.isFolder steps then .ok t else .error e

/-- Makes a folder, given by its steps in reverse order, and the folders that lead to it. Those that
were made stay when one cannot be made. -/
def ensureAll (t : FileTree) : List Text → Except StorageError Unit × FileTree
  | [] => (.ok (), t)
  | last :: before =>
    match t.ensure (last :: before).reverse with
    | .ok t => (.ok (), t)
    | .error .missing =>
      match ensureAll t before with
      | (.error e, t) => (.error e, t)
      | (.ok (), t) =>
        match t.ensure (last :: before).reverse with
        | .ok t => (.ok (), t)
        | .error e => (.error e, t)
    | .error e => (.error e, t)

/-- Makes a folder and the folders that lead to it. -/
def makeFolders (t : FileTree) (steps : List Text) : Except StorageError Unit × FileTree :=
  t.ensureAll steps.reverse

/-- The path that steps lead to where no links are on the way. -/
def plainPath (steps : List Text) : Path :=
  steps.foldl (fun folder step =>
    if step = up then above folder else if step = root then [root] else folder ++ [step]) []

/-- Puts a node under a path, with the folders that lead to it. -/
def plant (t : FileTree) (path : Path) (node : Node) : FileTree :=
  let folders := (List.range path.length).map path.take
  let t := folders.foldl (fun t folder =>
    match folder.getLast? with
    | none => t
    | some last =>
      if last = up || last = root || (t.lookup folder).isSome then t
      else Assoc.put folder .folder t) t
  Assoc.put path node t

/-- Removes a folder with all that is in it. -/
def removeFolder (t : FileTree) (steps : List Text) : FileTree :=
  match t.place steps with
  | .folder path => t.filter fun e => !path.isPrefixOf e.1
  | _ => t

end FileTree

end QueryFence
