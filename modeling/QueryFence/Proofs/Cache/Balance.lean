import Mathlib
import QueryFence.Proofs.Cache.FolderCalls

/-!
The index of a cache in a folder and the files beside it. Whatever is done through the cache, each record
has its file and each file its record, and the two say the same; so cleaning up by the index takes away
just the files that have expired.
-/

namespace QueryFence.FileCache

/-- What is done with a cache in a folder: a call, or opening it again with another span. -/
inductive FolderUse
  | call (now : Instant) (call : CacheCall)
  | reopen (ttl : Span)

def FolderUse.carryOut (c : FileCache) : FolderUse → FileCache
  | .call now asked => asked.carryOut c now
  | .reopen ttl => (attach ttl c.disk).2

def carryOutAll (c : FileCache) (uses : List FolderUse) : FileCache :=
  uses.foldl FolderUse.carryOut c

/-- An outcome is read back from its file as it was stored. -/
def IsReadBack (e : Entry) : Prop := Json.read (entryText e) = .ok e.toJson

/-- A use stores only what is read back. -/
def FolderUse.IsReadBack (use : FolderUse) : Prop :=
  ∀ now key data isError, use = .call now (.add key data isError) →
    FileCache.IsReadBack (Entry.at now data isError)

section Records

variable {disk after : Disk} {folder : Path} {records records' : List (Text × Json)} {key : Text}

/-- The file and the record that a key leads to are those of one outcome, or there is neither. -/
def IsPaired (disk : Disk) (folder : Path) (records : List (Text × Json)) (key : Text) : Prop :=
  (disk.content? folder (fileName (fileKey key)) = none ∧ records.lookup (fileKey key) = none) ∨
    ∃ k e, fileKey k = fileKey key ∧ IsReadBack e ∧
      disk.content? folder (fileName (fileKey key)) = some (entryText e) ∧
      records.lookup (fileKey key) = some (indexRecord k e)

theorem IsPaired.of_isSame (h : IsPaired disk folder records key)
    (hs : IsSame folder disk records after records' key) : IsPaired after folder records' key := by
  rw [IsPaired, hs.content, hs.record]
  exact h

/-- A kept folder in which every file has its record and every record its file. -/
structure IsBalanced (disk : Disk) (folder : Path) (records : List (Text × Json)) : Prop extends
    IsKept disk folder records where
  paired : ∀ key, IsPaired disk folder records key

theorem IsBalanced.of_isWithout (h : IsBalanced disk folder records) {removed : Text → Prop}
    (hk : IsKept after folder records')
    (hw : IsWithout folder disk records after removed records') :
    IsBalanced after folder records' := by
  refine ⟨hk, fun key => ?_⟩
  by_cases hr : removed (fileKey key)
  · exact .inl ⟨hw.gone key hr, hw.dropped key hr⟩
  · exact (h.paired key).of_isSame (hw.others key hr)

theorem IsBalanced.run_add (h : IsBalanced disk folder records) (now : Instant) (other : Text)
    {data : Json} {isError : Bool} (hread : IsReadBack (Entry.at now data isError)) :
    ∃ records', IsBalanced (Disk.run (add now other data isError) disk).2 folder records' := by
  obtain ⟨after, hrun, hkept, hfile, hothers⟩ := h.toIsKept.run_add now other data isError
  rw [hrun]
  refine ⟨_, hkept, fun key => ?_⟩
  by_cases hk : fileKey key = fileKey other
  · rw [IsPaired, hk]
    exact .inr ⟨other, _, rfl, hread, hfile, Assoc.lookup_put_self _ _ _⟩
  · exact (h.paired key).of_isSame (hothers.isSame (Assoc.lookup_put_of_ne hk _ _) hk)

theorem IsBalanced.run_get (h : IsBalanced disk folder records) (ttl : Span) (now : Instant)
    (other : Text) :
    ∃ records', IsBalanced (Disk.run (get ttl now other) disk).2 folder records' := by
  rcases h.toIndexes.run_get ttl now other with
    ⟨-, r, hrun⟩ | ⟨-, after, hrun, hindexes, hgone, hothers⟩
  · rw [hrun]
    exact ⟨records, h⟩
  · have hw := isWithout_erase hindexes hgone hothers
    have hkept := h.toIsKept.of_run (get_asks ttl now other) hrun hindexes
      (h.recordKeys_of_sublist hw.rest)
    rw [hrun]
    exact ⟨_, h.of_isWithout hkept hw⟩

theorem IsBalanced.run_delete (h : IsBalanced disk folder records) (other : Text) :
    ∃ records', IsBalanced (Disk.run (delete other) disk).2 folder records' := by
  obtain ⟨after, hrun, hindexes, hgone, hothers⟩ := h.toIndexes.run_removeEntry other
  have hw := isWithout_erase hindexes hgone hothers
  have hkept := h.toIsKept.of_run (removeEntry_asks other) hrun hindexes
    (h.recordKeys_of_sublist hw.rest)
  rw [delete, hrun]
  exact ⟨_, h.of_isWithout hkept hw⟩

theorem IsBalanced.run_cleanup (h : IsBalanced disk folder records) (ttl : Span) (now : Instant) :
    ∃ after, Disk.run (cleanup ttl now) disk =
        (.ok (records.countP (hasLapsed ttl now ·.2)), after) ∧
      IsBalanced after folder (records.filter fun record => !hasLapsed ttl now record.2) ∧
      IsWithout folder disk records after (IsOutdated ttl now records)
        (records.filter fun record => !hasLapsed ttl now record.2) := by
  obtain ⟨after, hrun, htidy, hw⟩ := h.toIndexes.run_cleanup h.tidy h.recordKeys ttl now
  exact ⟨after, hrun, h.of_isWithout ⟨hw.indexes, htidy, h.recordKeys_of_sublist hw.rest⟩ hw, hw⟩

theorem IsBalanced.run_clear (h : IsBalanced disk folder records) :
    IsBalanced (Disk.run clear disk).2 folder [] := by
  obtain ⟨hindexes, htidy, hgone⟩ := h.toIndexes.run_clear h.tidy
  exact ⟨⟨hindexes, htidy, fun k hk => absurd hk List.not_mem_nil⟩,
    fun key => .inl ⟨hgone key, rfl⟩⟩

theorem IsBalanced.attach (h : IsBalanced disk folder records) (ttl : Span) :
    IsBalanced (attach ttl disk).2.disk folder records := by
  obtain ⟨c, hattach, -, hkept, hsame⟩ := h.attach_isSame ttl
  rw [hattach]
  exact ⟨hkept, fun key => (h.paired key).of_isSame (hsame key)⟩

theorem IsReady.isBalanced {ttl : Span} {c : FileCache} (h : IsReady disk)
    (hp : Assoc.HasDistinctKeys disk.tree) (hattach : FileCache.attach ttl disk = (.ok (), c)) :
    ∃ folder, IsBalanced c.disk folder [] := by
  obtain ⟨folder, hkept, hfree⟩ := h.isKept hp
  have hempty : IsBalanced disk.make.2 folder [] := ⟨hkept, fun key => .inl ⟨hfree key, rfl⟩⟩
  rw [attach_eq_ok hattach]
  refine ⟨folder, ⟨hkept.run_prepare, (hkept.keeps.run_isTidy hkept.tidy prepare_asks).2,
    hkept.recordKeys⟩, fun key => ?_⟩
  exact (hempty.paired key).of_isSame (hkept.run_prepare_isSame key)

/-- Cleaning up changes nothing in the tree but the index and the files of the records that have
lapsed. -/
theorem IsBalanced.lookup_cleanup (h : IsBalanced disk folder records) (ttl : Span) (now : Instant)
    {path : Path} (hindex : path ≠ folder ++ [indexName])
    (hlapsed : ∀ record ∈ records, hasLapsed ttl now record.2 = true →
      path ≠ folder ++ [fileName record.1]) :
    (Disk.run (cleanup ttl now) disk).2.tree.lookup path = disk.tree.lookup path := by
  obtain ⟨after, hrun, hafter, hw⟩ := h.run_cleanup ttl now
  by_cases hown : ∃ name, IsOwnName name ∧ path = folder ++ [name]
  · obtain ⟨name, hname, rfl⟩ := hown
    obtain rfl | ⟨key, rfl⟩ := id hname
    · exact absurd rfl hindex
    have hkeep : ¬ IsOutdated ttl now records (fileKey key) := by
      rintro ⟨k, e, hm, hexp⟩
      exact hlapsed _ hm hexp rfl
    rw [hrun, hafter.keeps.lookup_eq hname, h.keeps.lookup_eq hname, (hw.others key hkeep).content]
  · have hasks := removeAll_asks (isFileKey_of_mem_lapsedKeys h.recordKeys ttl now)
    rw [h.toIndexes.run_cleanup_eq]
    exact h.keeps.run_lookup h.tidy hasks fun name hname hpath => hown ⟨name, hname, hpath⟩

end Records

/-- The name of an outcome's file. -/
def isEntryFile (name : Text) : Bool := isCacheFile name && name != indexName

/-- What the index says, record by record, and what the folder holds, file by file, are the same. -/
structure IsMirroredBy (c : FileCache) (records : List (Text × Json)) : Prop where
  index : (c.perform loadIndex).1 = .ok (.object records)
  keys : Assoc.HasDistinctKeys records
  files : ∃ found, (c.perform DiskPlan.names).1 = .ok found ∧
    (found.filter isEntryFile).Perm (records.map (fileName ·.1))
  outcomes : ∀ k record, (k, record) ∈ records → ∃ key e, k = fileKey key ∧
    record = indexRecord key e ∧ (c.perform (loadEntry k)).1 = .ok (some e.toJson)

/-- After cleaning up the records that had lapsed are gone with their files, and nothing else. -/
structure IsCleanedUp (c : FileCache) (now : Instant) (records : List (Text × Json))
    (after : FileCache) : Prop where
  mirrored : after.IsMirroredBy (records.filter fun record => !hasLapsed c.ttl now record.2)
  home : after.disk.home = c.disk.home
  elsewhere : ∃ folder, c.disk.tree.place c.disk.home = .folder folder ∧
    ∀ path, path ≠ folder ++ [indexName] →
      (∀ record ∈ records, hasLapsed c.ttl now record.2 = true →
        path ≠ folder ++ [fileName record.1]) →
      after.disk.tree.lookup path = c.disk.tree.lookup path

section Cache

variable {c : FileCache} {folder : Path} {records : List (Text × Json)}

theorem IsBalanced.mem_files (h : IsBalanced c.disk folder records) {found : List Text}
    (hmem : ∀ name, name ∈ found.filter isCacheFile ↔ isCacheFile name = true ∧ IsOwnName name ∧
      (c.disk.content? folder name).isSome = true) (name : Text) :
    name ∈ found.filter isEntryFile ↔ name ∈ records.map (fileName ·.1) := by
  have hentry : name ∈ found.filter isEntryFile ↔
      name ∈ found.filter isCacheFile ∧ name ≠ indexName := by
    simp only [List.mem_filter, isEntryFile, Bool.and_eq_true, bne_iff_ne, and_assoc]
  rw [hentry, hmem, List.mem_map]
  constructor
  · rintro ⟨⟨-, hown, hthere⟩, hne⟩
    obtain ⟨key, rfl⟩ := hown.resolve_left hne
    rcases h.paired key with ⟨hnone, -⟩ | ⟨k, e, -, -, -, hrecord⟩
    · rw [hnone] at hthere
      cases hthere
    · exact ⟨_, Assoc.mem_of_lookup_eq_some hrecord, rfl⟩
  · rintro ⟨⟨k, record⟩, hm, rfl⟩
    obtain ⟨key, rfl⟩ := h.recordKeys k (Assoc.mem_keys hm)
    have hlookup := h.index.keys.lookup_eq_some hm
    have hown := isOwnName_file key
    refine ⟨⟨hown.isCacheFile, hown, ?_⟩, fileName_ne_indexName key⟩
    rcases h.paired key with ⟨-, hnone⟩ | ⟨k, e, -, -, hfile, -⟩
    · cases hnone.symm.trans hlookup
    · rw [hfile]
      rfl

theorem IsBalanced.isMirroredBy (h : IsBalanced c.disk folder records) :
    c.IsMirroredBy records := by
  refine ⟨congrArg Prod.fst (perform_eq h.toIndexes.run_loadIndex), h.index.keys, ?_, ?_⟩
  · obtain ⟨found, hfound, hnodup, hmem⟩ := h.keeps.answer_names h.tidy
    have hlist : Disk.run DiskPlan.names c.disk = (.ok found, c.disk) := hfound
    refine ⟨found, congrArg Prod.fst (perform_eq hlist),
      (List.perm_ext_iff_of_nodup ?_ ?_).2 (h.mem_files hmem)⟩
    · have hentries : found.filter isEntryFile =
          (found.filter isCacheFile).filter (· != indexName) := by
        rw [List.filter_filter]
        exact congrArg (fun f => found.filter f) (funext fun name => Bool.and_comm _ _)
      rw [hentries]
      exact hnodup.filter _
    · have hkeys := h.index.keys.map fun a b => fileName_inj
      rwa [List.map_map] at hkeys
  · intro k record hm
    obtain ⟨other, rfl⟩ := h.recordKeys k (Assoc.mem_keys hm)
    have hlookup := h.index.keys.lookup_eq_some hm
    rcases h.paired other with ⟨-, hnone⟩ | ⟨key, e, hkey, hread, hfile, hrecord⟩
    · cases hnone.symm.trans hlookup
    · have hload := run_loadEntry_of_content h.keeps hfile hread
      exact ⟨key, e, hkey.symm, Option.some.inj (hlookup.symm.trans hrecord),
        congrArg Prod.fst (perform_eq hload)⟩

theorem IsBalanced.isCleanedUp (h : IsBalanced c.disk folder records) (now : Instant) :
    ∃ after, c.perform (cleanup c.ttl now) =
        (.ok (records.countP (hasLapsed c.ttl now ·.2)), after) ∧
      c.IsCleanedUp now records after := by
  obtain ⟨after, hrun, hafter, -⟩ := h.run_cleanup c.ttl now
  have hhome := Disk.run_home (cleanup c.ttl now) c.disk
  rw [hrun] at hhome
  refine ⟨⟨c.ttl, after⟩, perform_eq hrun, IsBalanced.isMirroredBy hafter, hhome, folder, h.keeps.home,
    fun path hindex hlapsed => ?_⟩
  have hlookup := h.lookup_cleanup c.ttl now hindex hlapsed
  rwa [hrun] at hlookup

/-- Every use of a cache leaves each file with its record and each record with its file. -/
theorem IsBalanced.carryOut (h : IsBalanced c.disk folder records) {use : FolderUse}
    (hread : use.IsReadBack) : ∃ records', IsBalanced (use.carryOut c).disk folder records' := by
  cases use with
  | reopen ttl => exact ⟨records, h.attach ttl⟩
  | call now asked =>
    cases asked with
    | add other data isError => exact h.run_add now other (hread now other data isError rfl)
    | get other => exact h.run_get c.ttl now other
    | getTime other =>
      rw [FolderUse.carryOut, CacheCall.carryOut, ResultCache.getTime_snd]
      exact h.run_get c.ttl now other
    | delete other => exact h.run_delete other
    | cleanup =>
      obtain ⟨after, hrun, hafter, -⟩ := h.run_cleanup c.ttl now
      have hsame : ((FolderUse.call now .cleanup).carryOut c).disk = after := congrArg Prod.snd hrun
      rw [hsame]
      exact ⟨_, hafter⟩
    | clear => exact ⟨[], h.run_clear⟩
    | reopen => exact ⟨records, h.attach c.ttl⟩

theorem IsBalanced.carryOutAll (h : IsBalanced c.disk folder records) {uses : List FolderUse}
    (hread : ∀ use ∈ uses, use.IsReadBack) :
    ∃ records', IsBalanced (c.carryOutAll uses).disk folder records' := by
  induction uses generalizing c records with
  | nil => exact ⟨records, h⟩
  | cons use uses ih =>
    obtain ⟨between, hbetween⟩ := h.carryOut (hread use List.mem_cons_self)
    exact ih hbetween fun other hm => hread other (List.mem_cons_of_mem use hm)

/-- Whatever was done with a cache that was opened in a fresh folder, the files of the folder are those
that the index records, each with its time and kind; and cleaning up then counts the records that have
lapsed, takes away just these and their files, and leaves the other records in their order. -/
theorem mirrored_after_uses {disk : Disk} {ttl : Span} (hready : IsReady disk)
    (hpaths : Assoc.HasDistinctKeys disk.tree) (hopen : attach ttl disk = (.ok (), c))
    {uses : List FolderUse} (hread : ∀ use ∈ uses, use.IsReadBack) :
    ∃ records, (c.carryOutAll uses).IsMirroredBy records ∧
      ∀ now, ∃ after, (c.carryOutAll uses).perform (cleanup (c.carryOutAll uses).ttl now) =
          (.ok (records.countP (hasLapsed (c.carryOutAll uses).ttl now ·.2)), after) ∧
        (c.carryOutAll uses).IsCleanedUp now records after := by
  obtain ⟨folder, hempty⟩ := hready.isBalanced hpaths hopen
  obtain ⟨records, hbalanced⟩ := hempty.carryOutAll hread
  exact ⟨records, hbalanced.isMirroredBy, fun now => hbalanced.isCleanedUp now⟩

/-- Two outcomes of which one lapses, with the cache opened again for a shorter time in between. -/
theorem mirrored_after_uses_of_reopened :
    let disk : Disk := ⟨["cache"], []⟩
    let ttl : Span := ⟨10⟩
    let c := (attach ttl disk).2
    let uses : List FolderUse := [.call ⟨0⟩ (.add "b" (.text "old") true),
      .call ⟨4⟩ (.add "a" (.int 1) false), .reopen ⟨5⟩, .call ⟨6⟩ (.getTime "b"),
      .call ⟨7⟩ (.add "b" .null true)]
    (IsReady disk ∧ Assoc.HasDistinctKeys disk.tree ∧ attach ttl disk = (.ok (), c) ∧
      ∀ use ∈ uses, use.IsReadBack) ∧
    ∃ records, (c.carryOutAll uses).IsMirroredBy records ∧
      ∀ now, ∃ after, (c.carryOutAll uses).perform (cleanup (c.carryOutAll uses).ttl now) =
          (.ok (records.countP (hasLapsed (c.carryOutAll uses).ttl now ·.2)), after) ∧
        (c.carryOutAll uses).IsCleanedUp now records after := by
  intro disk ttl c uses
  have hready : IsReady disk := ⟨by decide, ⟨[], by cbv, nofun⟩, by decide⟩
  have hpaths : Assoc.HasDistinctKeys disk.tree := List.nodup_nil
  have hmade : (attach ttl disk).1 = .ok () := by cbv
  have hopen : attach ttl disk = (.ok (), c) := Prod.ext hmade rfl
  have hread : ∀ use ∈ uses, use.IsReadBack := by
    intro use hm now key data isError huse
    subst huse
    apply read_entryText
    change data.IsExact
    simp only [uses, List.mem_cons, FolderUse.call.injEq, CacheCall.add.injEq, reduceCtorEq,
      and_false, false_or, List.not_mem_nil, or_false] at hm
    have hone : (Json.int 1).IsExact := by decide
    rcases hm with ⟨-, -, rfl, -⟩ | ⟨-, -, rfl, -⟩ | ⟨-, -, rfl, -⟩
    · trivial
    · exact hone
    · trivial
  exact ⟨⟨hready, hpaths, hopen, hread⟩, mirrored_after_uses hready hpaths hopen hread⟩

end Cache

end QueryFence.FileCache
