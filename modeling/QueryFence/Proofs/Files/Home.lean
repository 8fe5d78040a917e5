import QueryFence.Files.Disk
import QueryFence.Proofs.Files.Walk

/-!
The files of a program in its home: where each of its names is free or leads to a file, the home is a
store of texts by name, and every action of the program reads or changes just one of them.
-/

namespace QueryFence.Disk

/-- A disk whose home is a folder in which no name of the program's own is a link. -/
structure Houses (disk : Disk) (folder : Path) (own : Text → Prop) : Prop where
  home : disk.tree.place disk.home = .folder folder
  fits : ∀ name, own name → FileTree.refusal? (disk.steps name) = none
  plain : ∀ name, own name → FileTree.IsPlainName name
  links : ∀ name, own name → ∀ goal, disk.tree.lookup (folder ++ [name]) ≠ some (.link goal)

/-- What stands under a name. -/
def node? (disk : Disk) (folder : Path) (name : Text) : Option Node :=
  disk.tree.lookup (folder ++ [name])

/-- A disk whose home is a folder in which every name of the program's own is free or is a file. -/
structure Keeps (disk : Disk) (folder : Path) (own : Text → Prop) : Prop where
  home : disk.tree.place disk.home = .folder folder
  steps : ∀ step ∈ disk.home, FileTree.staysHere step = false
  fits : ∀ name, own name → FileTree.refusal? (disk.steps name) = none
  plain : ∀ name, own name → FileTree.IsPlainName name
  files : ∀ name, own name → ∀ node, disk.tree.lookup (folder ++ [name]) = some node →
    ∃ content, node = .file content

/-- The text of the file under a name. -/
def content? (disk : Disk) (folder : Path) (name : Text) : Option Text :=
  match disk.tree.lookup (folder ++ [name]) with
  | some (.file content) => some content
  | _ => none

variable {disk : Disk} {folder : Path} {own : Text → Prop} {name : Text}

theorem Houses.leads (h : disk.Houses folder own) :
    FileTree.Leads disk.tree FileTree.linkLimit [] disk.home folder := by
  have hplace := h.home
  rw [FileTree.place] at hplace
  split at hplace
  · cases hplace
  · exact FileTree.leads_of_walk hplace

/-- What a name of the program leads to is what stands under it. -/
theorem Houses.place_eq (h : disk.Houses folder own) (hn : own name) :
    disk.tree.place (disk.steps name) =
      match disk.node? folder name with
      | some (.file content) => .file (folder ++ [name]) content
      | some .folder => .folder (folder ++ [name])
      | _ => .free (folder ++ [name]) := by
  obtain ⟨left, hwalk⟩ := h.leads.walk_append [name]
  rw [FileTree.place, h.fits name hn]
  simp only [Disk.steps, hwalk]
  rw [FileTree.walk_plain (h.plain name hn), node?]
  have hlink := h.links name hn
  cases hnode : disk.tree.lookup (folder ++ [name]) with
  | none => rfl
  | some node =>
    cases node with
    | file content => rfl
    | folder => rw [FileTree.walk]
    | link goal => exact absurd hnode (hlink goal)

theorem Houses.slot_eq (h : disk.Houses folder own) (hn : own name) :
    disk.tree.slot (disk.steps name) = .ok (some (folder ++ [name])) := by
  have hplain := h.plain name hn
  have hshort : ¬ FileTree.nameLimit < (Text.utf8 name).length := Nat.not_lt.2 hplain.short
  have hlast : (disk.steps name).getLast? = some name := List.getLast?_concat
  have hbefore : (disk.steps name).dropLast = disk.home := List.dropLast_concat
  rw [FileTree.slot, h.fits name hn, hlast]
  simp only [hbefore, h.home, hplain.up, hplain.root, hshort, decide_false, Bool.or_self,
    Bool.false_eq_true, if_false]

/-- The disk after the file under one name was written or removed; folders are left alone. -/
structure IsChange (folder : Path) (own : Text → Prop) (disk after : Disk) (name : Text)
    (content : Option Text) : Prop where
  houses : after.Houses folder own
  node : after.node? folder name = content.map .file
  others : ∀ other, other ≠ name → after.node? folder other = disk.node? folder other

theorem Houses.isChange (h : disk.Houses folder own) (hn : own name)
    (hfolder : disk.node? folder name ≠ some .folder) {t : FileTree} {content : Option Text}
    (hname : t.lookup (folder ++ [name]) = content.map .file)
    (hothers : ∀ path, path ≠ folder ++ [name] → t.lookup path = disk.tree.lookup path) :
    IsChange folder own disk { disk with tree := t } name content := by
  have hne : ∀ other, other ≠ name → folder ++ [other] ≠ folder ++ [name] := by
    intro other ho heq
    exact ho (List.singleton_inj.1 (List.append_cancel_left heq))
  refine ⟨⟨?_, h.fits, h.plain, fun other ho goal hlink => ?_⟩, hname, fun other ho => ?_⟩
  · -- The way home runs through folders and links only, and these are as they were.
    have hleads : FileTree.Leads t FileTree.linkLimit [] disk.home folder := by
      refine h.leads.frame fun path node hnode hnofile => ?_
      rw [hothers path, hnode]
      rintro rfl
      cases node with
      | file content => exact hnofile content rfl
      | folder => exact hfolder hnode
      | link goal => exact h.links name hn goal hnode
    have hhome := h.home
    rw [FileTree.place] at hhome ⊢
    split at hhome
    · cases hhome
    · rename_i hrefusal
      simp only [hrefusal, hleads.walk_eq]
  · by_cases hsame : other = name
    · subst hsame
      have hmap := hname.symm.trans hlink
      cases content <;> cases hmap
    · exact h.links other ho goal (hothers _ (hne other hsame) ▸ hlink)
  · exact hothers _ (hne other ho)

theorem Keeps.houses (h : disk.Keeps folder own) : disk.Houses folder own := by
  refine ⟨h.home, h.fits, h.plain, fun name hn goal hlink => ?_⟩
  obtain ⟨content, hfile⟩ := h.files name hn _ hlink
  cases hfile

theorem Keeps.lookup_eq (h : disk.Keeps folder own) (hn : own name) :
    disk.tree.lookup (folder ++ [name]) = (disk.content? folder name).map .file := by
  rw [content?]
  cases hl : disk.tree.lookup (folder ++ [name]) with
  | none => rfl
  | some node =>
    obtain ⟨content, rfl⟩ := h.files name hn node hl
    rfl

/-- What a name of the program leads to. -/
theorem Keeps.place_eq (h : disk.Keeps folder own) (hn : own name) :
    disk.tree.place (disk.steps name) =
      match disk.content? folder name with
      | some content => .file (folder ++ [name]) content
      | none => .free (folder ++ [name]) := by
  rw [h.houses.place_eq hn, node?, h.lookup_eq hn]
  cases disk.content? folder name <;> rfl

theorem Keeps.slot_eq (h : disk.Keeps folder own) (hn : own name) :
    disk.tree.slot (disk.steps name) = .ok (some (folder ++ [name])) := h.houses.slot_eq hn

/-- The disk after the file under one name was written or removed. -/
structure IsUpdate (folder : Path) (own : Text → Prop) (disk after : Disk) (name : Text)
    (content : Option Text) : Prop where
  keeps : after.Keeps folder own
  content : after.content? folder name = content
  others : ∀ other, other ≠ name → after.content? folder other = disk.content? folder other

/-- Nothing but the file under one name has changed in the tree. -/
theorem Keeps.isUpdate (h : disk.Keeps folder own) (hn : own name) {t : FileTree}
    {content : Option Text} (hname : t.lookup (folder ++ [name]) = content.map .file)
    (hothers : ∀ path, path ≠ folder ++ [name] → t.lookup path = disk.tree.lookup path) :
    IsUpdate folder own disk { disk with tree := t } name content := by
  have hfolder : disk.node? folder name ≠ some .folder := by
    intro hnode
    obtain ⟨c, hfile⟩ := h.files name hn _ hnode
    cases hfile
  obtain ⟨hhouses, -, hrest⟩ := h.houses.isChange hn hfolder hname hothers
  refine ⟨⟨hhouses.home, h.steps, h.fits, h.plain, fun other ho node hnode => ?_⟩, ?_, fun other ho => ?_⟩
  · by_cases hsame : other = name
    · subst hsame
      rw [hname] at hnode
      obtain ⟨c, -, rfl⟩ := Option.map_eq_some_iff.1 hnode
      exact ⟨c, rfl⟩
    · have heq : folder ++ [other] ≠ folder ++ [name] := fun heq =>
        hsame (List.singleton_inj.1 (List.append_cancel_left heq))
      exact h.files other ho node (hothers _ heq ▸ hnode)
  · simp only [content?, hname]
    cases content <;> rfl
  · exact congrArg (fun
      | some (.file content) => some content
      | _ => none) (hrest other ho)

theorem Houses.answer_exists (h : disk.Houses folder own) (hn : own name) :
    answer (.exists name) disk = ((disk.node? folder name).isSome, disk) := by
  have hlink := h.links name hn
  rw [answer, FileTree.isThere, h.place_eq hn]
  cases hnode : disk.node? folder name with
  | none => rfl
  | some node =>
    cases node with
    | file content => rfl
    | folder => rfl
    | link goal => exact absurd hnode (hlink goal)

theorem Houses.answer_read (h : disk.Houses folder own) (hn : own name) :
    answer (.read name) disk =
      (match disk.node? folder name with
        | some (.file content) => .ok content
        | some .folder => .error .isFolder
        | _ => .error .missing, disk) := by
  rw [answer, FileTree.read, h.place_eq hn]
  cases disk.node? folder name with
  | none => rfl
  | some node => cases node <;> rfl

theorem Houses.answer_write (h : disk.Houses folder own) (hn : own name)
    (hfolder : disk.node? folder name ≠ some .folder) (content : Text) :
    ∃ after, answer (.write name content) disk = (.ok (), after) ∧
      IsChange folder own disk after name (some content) := by
  refine ⟨_, ?_, h.isChange (t := Assoc.put (folder ++ [name]) (.file content) disk.tree) hn hfolder
    (Assoc.lookup_put_self ..) fun path hp => Assoc.lookup_put_of_ne hp _ _⟩
  rw [answer, FileTree.write, h.place_eq hn]
  cases hnode : disk.node? folder name with
  | none => rfl
  | some node =>
    cases node with
    | file content => rfl
    | folder => exact absurd hnode hfolder
    | link goal => rfl

theorem Houses.answer_write_folder (h : disk.Houses folder own) (hn : own name)
    (hfolder : disk.node? folder name = some .folder) (content : Text) :
    answer (.write name content) disk = (.error .isFolder, disk) := by
  rw [answer, FileTree.write, h.place_eq hn, hfolder]
  rfl

theorem Houses.answer_unlink (h : disk.Houses folder own) (hn : own name) {content : Text}
    (hfile : disk.node? folder name = some (.file content)) :
    ∃ after, answer (.unlink name) disk = (.ok (), after) ∧
      IsChange folder own disk after name none := by
  have hfolder : disk.node? folder name ≠ some .folder := by
    rw [hfile]
    nofun
  refine ⟨_, ?_, h.isChange (t := Assoc.erase (folder ++ [name]) disk.tree) hn hfolder
    (Assoc.lookup_erase_self ..) fun path hp => Assoc.lookup_erase_of_ne hp _⟩
  rw [node?] at hfile
  rw [answer, FileTree.unlink, h.slot_eq hn]
  simp only [hfile]
  rfl

theorem Houses.answer_unlink_folder (h : disk.Houses folder own) (hn : own name)
    (hfolder : disk.node? folder name = some .folder) :
    answer (.unlink name) disk = (.error .isFolder, disk) := by
  rw [node?] at hfolder
  rw [answer, FileTree.unlink, h.slot_eq hn]
  simp only [hfolder]
  rfl

theorem Keeps.answer_exists (h : disk.Keeps folder own) (hn : own name) :
    answer (.exists name) disk = ((disk.content? folder name).isSome, disk) := by
  rw [answer, FileTree.isThere, h.place_eq hn]
  cases disk.content? folder name <;> rfl

theorem Keeps.answer_read (h : disk.Keeps folder own) (hn : own name) :
    answer (.read name) disk =
      (match disk.content? folder name with
        | some content => .ok content
        | none => .error .missing, disk) := by
  rw [answer, FileTree.read, h.place_eq hn]
  cases disk.content? folder name <;> rfl

theorem Keeps.answer_write (h : disk.Keeps folder own) (hn : own name) (content : Text) :
    ∃ after, answer (.write name content) disk = (.ok (), after) ∧
      IsUpdate folder own disk after name (some content) := by
  refine ⟨_, ?_, h.isUpdate (t := Assoc.put (folder ++ [name]) (.file content) disk.tree) hn
    (Assoc.lookup_put_self ..) fun path hp => Assoc.lookup_put_of_ne hp _ _⟩
  rw [answer, FileTree.write, h.place_eq hn]
  cases disk.content? folder name <;> rfl

theorem Keeps.answer_unlink (h : disk.Keeps folder own) (hn : own name)
    (hfile : (disk.content? folder name).isSome = true) :
    ∃ after, answer (.unlink name) disk = (.ok (), after) ∧
      IsUpdate folder own disk after name none := by
  obtain ⟨content, hcontent⟩ := Option.isSome_iff_exists.1 hfile
  have hlookup := h.lookup_eq hn
  rw [hcontent] at hlookup
  refine ⟨_, ?_, h.isUpdate (t := Assoc.erase (folder ++ [name]) disk.tree) hn
    (Assoc.lookup_erase_self ..) fun path hp => Assoc.lookup_erase_of_ne hp _⟩
  rw [answer, FileTree.unlink, h.slot_eq hn]
  simp only [hlookup]
  rfl

section Run

variable {α β : Type}

theorem run_pure (a : α) (disk : Disk) : run (pure a) disk = (a, disk) := rfl

theorem run_bind (p : DiskPlan α) (f : α → DiskPlan β) (disk : Disk) :
    run (p >>= f) disk = run (f (run p disk).1) (run p disk).2 := Plan.run_andThen answer p f disk

theorem run_exists (name : Text) (disk : Disk) :
    run (DiskPlan.exists? name) disk = answer (.exists name) disk := rfl

theorem run_read (name : Text) (disk : Disk) :
    run (DiskPlan.read name) disk = answer (.read name) disk := rfl

theorem run_write (name content : Text) (disk : Disk) :
    run (DiskPlan.write name content) disk = answer (.write name content) disk := rfl

theorem run_unlink (name : Text) (disk : Disk) :
    run (DiskPlan.unlink name) disk = answer (.unlink name) disk := rfl

end Run

end QueryFence.Disk
