import QueryFence.Proofs.Cache.File

/-!
Opening a cache: in a folder that is new or holds no file of a cache, and again in the folder that an
earlier cache has left.
-/

namespace QueryFence

namespace FileTree

theorem written_prefix {steps : List Text} (h : steps ≠ []) (last : Text) :
    written steps <+: written (steps ++ [last]) := by
  have hjoin : ∀ parts : List Text,
      Text.joinWith "/" parts <+: Text.joinWith "/" (parts ++ [last]) := by
    intro parts
    cases parts with
    | nil => exact List.nil_prefix
    | cons part parts =>
      rw [joinWith_concat _ _ (List.cons_ne_nil part parts)]
      exact List.prefix_append _ _
  cases steps with
  | nil => exact absurd rfl h
  | cons first rest =>
    rw [List.cons_append, written, written]
    split
    · exact (List.prefix_cons_inj '/').2 (hjoin rest)
    · exact hjoin (first :: rest)

/-- What keeps a path from being looked up keeps every longer one from it too. -/
theorem refusal?_of_concat {steps : List Text} {last : Text}
    (h : refusal? (steps ++ [last]) = none) : refusal? steps = none := by
  rw [refusal?] at h
  split at h
  · cases h
  · rename_i hnull
    split at h
    · cases h
    · rename_i hlong
      have hnull' : steps.any (·.contains '\x00') = false := by
        rw [List.any_append, Bool.or_eq_true, not_or] at hnull
        exact Bool.eq_false_iff.2 hnull.1
      have hlong' : ¬ pathLimit < (Text.utf8 (written steps)).length := by
        by_cases hnil : steps = []
        · subst hnil
          decide
        · obtain ⟨rest, hrest⟩ := written_prefix hnil last
          rw [← hrest, Text.utf8_append, List.length_append] at hlong
          omega
      rw [refusal?, hnull', if_neg (by decide), if_neg hlong']

variable {t : FileTree}

theorem place_eq_folder_iff {steps : List Text} {folder : Path} :
    t.place steps = .folder folder ↔
      refusal? steps = none ∧ Leads t linkLimit [] steps folder := by
  rw [place]
  cases refusal? steps with
  | some e => simp
  | none =>
    simp only [true_and]
    exact ⟨leads_of_walk, Leads.walk_eq⟩

/-- The last step of a way to a folder finds something there already. -/
theorem make_of_folder {before : List Text} {last : Text} {folder : Path}
    (h : t.place (before ++ [last]) = .folder folder) (hlast : staysHere last = false)
    (node : Node) : t.make (before ++ [last]) node = .error .exists := by
  obtain ⟨hrefusal, hleads⟩ := place_eq_folder_iff.1 h
  obtain ⟨left, middle, hbefore, hend⟩ := hleads.split before [last] rfl
  have hplace := place_eq_folder_iff.2 ⟨refusal?_of_concat hrefusal, hbefore⟩
  have hslot : t.slot (before ++ [last]) =
      if last = up || last = root then .ok none
      else if nameLimit < (Text.utf8 last).length then .error .nameTooLong
      else .ok (some (middle ++ [last])) := by
    rw [slot, hrefusal, List.getLast?_concat]
    simp only [List.dropLast_concat, hplace]
  have hplain : ∀ found, IsPlainName last → t.lookup (middle ++ [last]) = some found →
      t.make (before ++ [last]) node = .error .exists := by
    intro found hname hfound
    have hshort : ¬ nameLimit < (Text.utf8 last).length := Nat.not_lt.2 hname.short
    rw [make, hslot]
    simp only [hname.up, hname.root, decide_false, Bool.or_self, Bool.false_eq_true, if_false,
      hshort, hfound, Option.isSome_some, if_true]
  cases hend with
  | stay hstay _ =>
    rw [hlast] at hstay
    exact Bool.noConfusion hstay
  | rise _ =>
    rw [make, hslot]
    rfl
  | restart _ =>
    rw [make, hslot]
    rfl
  | enter hname hfound _ => exact hplain _ hname hfound
  | follow hname hfound _ => exact hplain _ hname hfound

/-- A folder that is there is not made again, and nothing else is. -/
theorem makeFolders_of_folder {steps : List Text} {folder : Path}
    (h : t.place steps = .folder folder) (hsteps : ∀ step ∈ steps, staysHere step = false) :
    t.makeFolders steps = (.ok (), t) := by
  rcases List.eq_nil_or_concat steps with rfl | ⟨before, last, hconcat⟩
  · rfl
  · rw [List.concat_eq_append] at hconcat
    subst hconcat
    have hmake := make_of_folder h (hsteps last (by simp)) .folder
    have hensure : t.ensure (before ++ [last]) = .ok t := by
      rw [ensure, hmake]
      simp only [isFolder, h, if_true]
    rw [makeFolders, List.reverse_append, List.reverse_singleton, List.singleton_append, ensureAll,
      List.reverse_cons, List.reverse_reverse, hensure]

/-- What is under a name in a folder shows among the names there. -/
theorem mem_names {steps : List Text} {found : List Text} (h : t.names steps = .ok found) :
    ∃ folder, t.place steps = .folder folder ∧ ∀ name node,
      t.lookup (folder ++ [name]) = some node → name ∈ found := by
  rw [names] at h
  split at h
  · rename_i folder hplace
    refine ⟨folder, hplace, fun name node hlookup => ?_⟩
    cases h
    refine List.mem_filterMap.2 ⟨_, Assoc.mem_of_lookup_eq_some hlookup, ?_⟩
    simp only [List.getLast?_concat, if_true]
  · cases h
  · cases h
  · cases h

end FileTree

namespace FileCache

/-- A disk on which a cache can be opened: its home is new or holds no file that looks like one of a
cache, and the paths of the cache's files are not too long. -/
structure IsReady (disk : Disk) : Prop where
  steps : ∀ step ∈ disk.home, FileTree.staysHere step = false
  names : ∃ found, disk.make.2.names? = some found ∧ ∀ name ∈ found, isCacheFile name = false
  room : (Text.utf8 (FileTree.written disk.home)).length + 38 ≤ FileTree.pathLimit

theorem Indexes.run_prepare {disk : Disk} {folder : Path} {records : List (Text × Json)}
    (h : Indexes disk folder records) :
    Indexes (Disk.run prepare disk).2 folder records := by
  rw [prepare, Disk.run_bind, Disk.run_exists, h.keeps.answer_exists isOwnName_index]
  rcases h.content with hcontent | ⟨hcontent, rfl⟩
  · rw [hcontent]
    exact h
  · obtain ⟨after, hsave, hindexes, -⟩ := run_saveIndex h.keeps isIndex_nil
    simp only [hcontent, Option.isSome_none, Bool.false_eq_true, if_false, hsave]
    exact hindexes

theorem IsReady.indexes {disk : Disk} (h : IsReady disk) :
    ∃ folder, Indexes disk.make.2 folder [] := by
  obtain ⟨found, hnames, hfree⟩ := h.names
  rw [Disk.names?] at hnames
  cases hn : disk.make.2.tree.names disk.make.2.home with
  | error e =>
    rw [hn] at hnames
    cases hnames
  | ok found' =>
    rw [hn] at hnames
    obtain rfl := Option.some.inj hnames
    obtain ⟨folder, hplace, hmem⟩ := FileTree.mem_names hn
    have hempty : ∀ name, IsOwnName name →
        disk.make.2.tree.lookup (folder ++ [name]) = none := by
      intro name hown
      refine Option.eq_none_iff_forall_not_mem.2 fun node hnode => ?_
      have hfile := hfree name (hmem name node hnode)
      rw [hown.isCacheFile] at hfile
      exact Bool.noConfusion hfile
    refine ⟨folder, ⟨hplace, h.steps, fun name hown => ?_, fun name hown => hown.isPlainName,
      fun name hown node hnode => ?_⟩, isIndex_nil, .inr ⟨?_, rfl⟩⟩
    · refine FileTree.refusal?_concat (FileTree.place_eq_folder_iff.1 hplace).1 hown.isAscii
        hown.isPlainName.root ?_
      have hlength := hown.length_le
      have hroom := h.room
      have hhome : disk.make.2.home = disk.home := rfl
      rw [hhome]
      omega
    · rw [hempty name hown] at hnode
      cases hnode
    · rw [Disk.content?, hempty _ isOwnName_index]

theorem attach_eq_ok {ttl : Span} {disk : Disk} {c : FileCache}
    (h : attach ttl disk = (.ok (), c)) : c = ⟨ttl, (Disk.run prepare disk.make.2).2⟩ := by
  rw [attach] at h
  split at h
  · rename_i after hmake
    rw [hmake]
    cases h
    rfl
  · cases h

theorem IsReady.isSound_attach {ttl : Span} {disk : Disk} {c : FileCache} (h : IsReady disk)
    (hattach : attach ttl disk = (.ok (), c)) : c.IsSound := by
  obtain ⟨folder, hindexes⟩ := h.indexes
  rw [attach_eq_ok hattach]
  exact ⟨folder, [], hindexes.run_prepare⟩

/-- A cache may be opened again where an earlier one was. -/
theorem IsSound.attach {ttl : Span} {c after : FileCache} (h : c.IsSound)
    (hattach : FileCache.attach ttl c.disk = (.ok (), after)) : after.IsSound := by
  obtain ⟨folder, records, hindexes⟩ := h
  have hmake : c.disk.make.2 = c.disk := by
    rw [Disk.make, FileTree.makeFolders_of_folder hindexes.keeps.home hindexes.keeps.steps]
  rw [attach_eq_ok hattach, hmake]
  exact ⟨folder, records, hindexes.run_prepare⟩

end FileCache

end QueryFence
