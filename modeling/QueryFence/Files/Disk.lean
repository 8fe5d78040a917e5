import QueryFence.Files.Tree
import QueryFence.Plan

/-!
The actions of a program on the files of one folder, its home, and how a tree of files answers them.
-/

namespace QueryFence

/-- A tree of files with a folder in it, given by the steps that lead there. It may be gone. -/
structure Disk where
  home : List Text
  tree : FileTree
deriving DecidableEq, Repr

/-- The single actions of a program on the names in its home. -/
inductive DiskAction
  | exists (name : Text)
  | read (name : Text)
  | write (name content : Text)
  | unlink (name : Text)
  | names
deriving DecidableEq, Repr

/-- What an action gives back. -/
abbrev DiskAction.Reply : DiskAction → Type
  | .exists _ => Bool
  | .read _ => Except StorageError Text
  | .write _ _ => Except StorageError Unit
  | .unlink _ => Except StorageError Unit
  | .names => Except StorageError (List Text)

/-- A program on a folder. -/
abbrev DiskPlan := Plan DiskAction DiskAction.Reply

namespace Disk

/-- The steps to a name in the home. -/
def steps (disk : Disk) (name : Text) : List Text := disk.home ++ [name]

/-- The reply of a change of the tree; a failed one changes nothing. -/
def change (disk : Disk) : Except StorageError FileTree → Except StorageError Unit × Disk
  | .ok t => (.ok (), { disk with tree := t })
  | .error e => (.error e, disk)

/-- Carries out one action. -/
def answer : (action : DiskAction) → Disk → action.Reply × Disk
  | .exists name, disk => (disk.tree.isThere (disk.steps name), disk)
  | .read name, disk => (disk.tree.read (disk.steps name), disk)
  | .write name content, disk => disk.change (disk.tree.write (disk.steps name) content)
  | .unlink name, disk => disk.change (disk.tree.unlink (disk.steps name))
  | .names, disk => (disk.tree.names disk.home, disk)

def run {α : Type} (p : DiskPlan α) (disk : Disk) : α × Disk := p.run answer disk

/-- Makes the home and the folders that lead to it. -/
def make (disk : Disk) : Except StorageError Unit × Disk :=
  let (result, t) := disk.tree.makeFolders disk.home
  (result, { disk with tree := t })

/-- The names in the home, where it is there. -/
def names? (disk : Disk) : Option (List Text) := (disk.tree.names disk.home).toOption

end Disk

namespace DiskPlan

def exists? (name : Text) : DiskPlan Bool := Plan.query (DiskAction.exists name)

def read (name : Text) : DiskPlan (Except StorageError Text) :=
  Plan.query (DiskAction.read name)

def write (name content : Text) : DiskPlan (Except StorageError Unit) :=
  Plan.query (DiskAction.write name content)

def unlink (name : Text) : DiskPlan (Except StorageError Unit) :=
  Plan.query (DiskAction.unlink name)

def names : DiskPlan (Except StorageError (List Text)) := Plan.query DiskAction.names

end DiskPlan

end QueryFence
