import QueryFence.Proofs.Cache.Attach
import QueryFence.Proofs.Cache.Damage
import QueryFence.Proofs.Steps

/-!
A folder of a cache in which anything but links may stand under the cache's own names. Where the index can
be used, every operation reads and changes one slot: what stands under the name of a key's file, and the
record of the key. A folder in the place of the file keeps its slot as it is.
-/

namespace QueryFence

namespace Disk

variable {disk : Disk}

/-- No file that a cache makes stands behind a link of its own name. -/
def HasNoLinks (disk : Disk) : Prop :=
  ∀ folder, disk.tree.place disk.home = .folder folder → ∀ name, FileCache.IsOwnName name →
    ∀ goal, disk.tree.lookup (folder ++ [name]) ≠ some (.link goal)

theorem HasNoLinks.answer (h : disk.HasNoLinks) (action : DiskAction) :
    (answer action disk).2.HasNoLinks := by
  cases action with
  | write name content =>
    rw [Disk.answer, FileTree.write]
    have hput : ∀ path, HasNoLinks { disk with tree := Assoc.put path (.file content) disk.tree } := by
      intro path folder hplace own hown goal hlink
      have hbefore := h folder (FileTree.place_of_put_file hplace) own hown goal
      by_cases hpath : folder ++ [own] = path
      · rw [hpath] at hlink
        cases (Assoc.lookup_put_self path (Node.file content) disk.tree).symm.trans hlink
      · exact hbefore ((Assoc.lookup_put_of_ne hpath _ _).symm.trans hlink)
    split
    · exact hput _
    · exact hput _
    · exact h
    · exact h
  | unlink name =>
    rw [Disk.answer, FileTree.unlink]
    split
    · exact h
    · exact h
    · next path hslot =>
      split
      · exact h
      · intro folder hplace own hown goal hlink
        have hbefore := h folder (FileTree.place_of_erase hplace) own hown goal
        by_cases hpath : folder ++ [own] = path
        · rw [hpath] at hlink
          cases (Assoc.lookup_erase_self path disk.tree).symm.trans hlink
        · exact hbefore ((Assoc.lookup_erase_of_ne hpath _).symm.trans hlink)
      · exact h
  | _ => exact h

theorem HasNoLinks.run {α : Type} (h : disk.HasNoLinks) (p : DiskPlan α) :
    (run p disk).2.HasNoLinks := by
  induction p generalizing disk with
  | done a => exact h
  | ask action next ih => exact ih _ (h.answer action)

/-- Where something stands under the longest of the names, the home is a folder for all of them. -/
theorem HasNoLinks.houses (h : disk.HasNoLinks) {key : Text}
    (hthere : disk.tree.isThere (disk.steps (FileCache.fileName (FileCache.fileKey key))) = true) :
    ∃ folder, disk.Houses folder FileCache.IsOwnName := by
  have hown := FileCache.isOwnName_file key
  have hplace : ∀ e, disk.tree.place (disk.home ++ [FileCache.fileName (FileCache.fileKey key)]) ≠
      .none e := by
    intro e he
    rw [FileTree.isThere, Disk.steps, he] at hthere
    cases hthere
  rw [FileTree.place] at hplace
  cases hrefusal : FileTree.refusal? (disk.home ++ [FileCache.fileName (FileCache.fileKey key)]) with
  | some e =>
    rw [hrefusal] at hplace
    exact absurd rfl (hplace e)
  | none =>
    rw [hrefusal] at hplace
    obtain ⟨folder, hleads⟩ := FileTree.leads_of_walk_append (List.cons_ne_nil _ _) hplace
    have hhome := FileTree.place_eq_folder_iff.2 ⟨FileTree.refusal?_of_concat hrefusal, hleads⟩
    refine ⟨folder, hhome, fun name hn => ?_, fun name hn => hn.isPlainName, h folder hhome⟩
    refine FileTree.refusal?_of_longer hrefusal hn.isAscii hn.isPlainName.root
      hown.isPlainName.root ?_
    rw [hown.isAscii.length_utf8, FileCache.length_fileName]
    exact hn.length_le

end Disk

namespace FileCache

variable {disk after : Disk} {folder : Path} {records records' : List (Text × Json)} {key : Text}
  {ttl : Span} {now : Instant}

/-- A folder with an index that can be read, of exact records. -/
structure Shelves (disk : Disk) (folder : Path) (records : List (Text × Json)) : Prop where
  houses : disk.Houses folder IsOwnName
  exact : (Json.object records).IsExact
  index : indexIn (readIn disk indexName) = .ok (.object records)

/-- What is read of what stands under a name. -/
def readingOf : Option Node → Except StorageError Text
  | some (.file content) => .ok content
  | some .folder => .error .isFolder
  | _ => .error .missing

theorem readIn_eq (h : disk.Houses folder IsOwnName) {name : Text} (hn : IsOwnName name) :
    readIn disk name = readingOf (disk.node? folder name) := by
  have hread : readIn disk name = _ := congrArg Prod.fst (h.answer_read hn)
  rw [hread]
  cases disk.node? folder name with
  | none => rfl
  | some node => cases node <;> rfl

theorem Shelves.index_ne_folder (h : Shelves disk folder records) :
    disk.node? folder indexName ≠ some .folder := by
  intro hfolder
  have hindex := h.index
  rw [readIn_eq h.houses isOwnName_index, hfolder] at hindex
  cases hindex

theorem Shelves.loads (h : Shelves disk folder records) :
    Disk.run loadIndex disk = (.ok (.object records), disk) := by
  rw [run_loadIndex_eq, h.index]

theorem Shelves.of_same_index (h : Shelves disk folder records) (hh : after.Houses folder IsOwnName)
    (hnode : after.node? folder indexName = disk.node? folder indexName) :
    Shelves after folder records := by
  refine ⟨hh, h.exact, ?_⟩
  rw [readIn_eq hh isOwnName_index, hnode, ← readIn_eq h.houses isOwnName_index, h.index]

/-- Nothing but the index and what stands under one name has changed. -/
def IsSetAside (folder : Path) (fileKey : Text) (disk after : Disk) : Prop :=
  ∀ name, name ≠ indexName → name ≠ fileName fileKey → after.node? folder name = disk.node? folder name

theorem Shelves.run_saveIndex (h : Shelves disk folder records)
    (hx : (Json.object records').IsExact) :
    ∃ after, Disk.run (saveIndex (.object records')) disk = ((), after) ∧
      Shelves after folder records' ∧
      ∀ name, name ≠ indexName → after.node? folder name = disk.node? folder name := by
  obtain ⟨after, hwrite, hchange⟩ := h.houses.answer_write isOwnName_index h.index_ne_folder
    (Json.object records').writeIndented
  refine ⟨after, ?_, ⟨hchange.houses, hx, ?_⟩, hchange.others⟩
  · rw [saveIndex, Disk.run_bind, Disk.run_write, hwrite]
    rfl
  · rw [readIn_eq hchange.houses isOwnName_index, hchange.node]
    simp only [Option.map_some, readingOf, indexIn, Json.read_writeIndented hx]

theorem Shelves.run_removeRecord (h : Shelves disk folder records) (k : Text) :
    ∃ after, Disk.run (removeRecord k) disk = (.ok (), after) ∧
      Shelves after folder (Assoc.erase k records) ∧
      ∀ name, name ≠ indexName → after.node? folder name = disk.node? folder name := by
  have hcontains : (Json.object records).contains k = .ok (records.lookup k).isSome := rfl
  rw [removeRecord, Disk.run_bind, h.loads]
  simp only [hcontains]
  cases hfind : records.lookup k with
  | none =>
    rw [Assoc.erase_eq_self hfind]
    exact ⟨disk, rfl, h, fun _ _ => rfl⟩
  | some record =>
    have hexact := h.exact.sublist (Assoc.erase_sublist k records)
    obtain ⟨after, hsave, hafter, hothers⟩ := h.run_saveIndex hexact
    refine ⟨after, ?_, hafter, hothers⟩
    simp only [Option.isSome_some, dropRecord, Disk.run_bind, hsave]
    rfl

theorem hasLapsed_of_item {record time : Json} (h : record.item "cached_at" = .ok time) :
    hasLapsed ttl now record = isExpired ttl now time := by
  rw [hasLapsed, h]

theorem hasLapsed_of_error {record : Json} {fault : Fault}
    (h : record.item "cached_at" = .error fault) : hasLapsed ttl now record = false := by
  rw [hasLapsed, h]

/-! What stands in the slot of a key, and what the operations make of it. -/

/-- What stands under the name of a key's file, and the record of the key. -/
abbrev Slot := Option Node × Option Json

def slot (folder : Path) (disk : Disk) (records : List (Text × Json)) (key : Text) : Slot :=
  (disk.node? folder (fileName (fileKey key)), records.lookup (fileKey key))

/-- Keys with one file have one slot. -/
theorem slot_congr {other : Text} (h : fileKey other = fileKey key) (disk : Disk)
    (records : List (Text × Json)) : slot folder disk records other = slot folder disk records key := by
  rw [slot, slot, h]

namespace Slot

/-- A slot that is no folder is emptied. -/
def removed : Slot → Slot
  | (some .folder, record) => (some .folder, record)
  | _ => (none, none)

/-- A slot that is no folder takes an outcome. -/
def stored (key : Text) (e : Entry) : Slot → Slot
  | (some .folder, record) => (some .folder, record)
  | _ => (some (.file (entryText e)), some (indexRecord key e))

/-- Something stands in a slot, and its record has lapsed. -/
def isOver (ttl : Span) (now : Instant) (s : Slot) : Bool :=
  s.1.isSome && s.2.any (hasLapsed ttl now ·)

theorem isOver_some (node : Node) (record : Json) :
    isOver ttl now (some node, some record) = hasLapsed ttl now record := rfl

/-- What a look-up leaves of a slot. -/
def lookedUp (ttl : Span) (now : Instant) (s : Slot) : Slot :=
  if s.isOver ttl now then s.removed else s

/-- What a look-up finds in a slot. -/
def found (ttl : Span) (now : Instant) : Slot → Except Fault (Option Json)
  | (some node, some record) =>
    match record.item "cached_at" with
    | .error fault => .error fault
    | .ok time => if isExpired ttl now time then .ok none else entryIn (readingOf (some node))
  | _ => .ok none

end Slot

/-- What a call for a key has made of a folder: of the slot of the key something new, and nothing of the
others. -/
structure Fills (folder : Path) (disk : Disk) (records : List (Text × Json)) (key : Text) (s : Slot)
    (after : Disk) (records' : List (Text × Json)) : Prop where
  shelves : Shelves after folder records'
  slot_self : slot folder after records' key = s
  slot_of_ne : ∀ other, fileKey other ≠ fileKey key →
    slot folder after records' other = slot folder disk records other

theorem Shelves.fills_self (h : Shelves disk folder records) (key : Text) :
    Fills folder disk records key (slot folder disk records key) disk records :=
  ⟨h, rfl, fun _ _ => rfl⟩

theorem fills_of_erase {s : Slot} (h : Shelves after folder (Assoc.erase (fileKey key) records))
    (hs : s = (none, none)) (hnode : after.node? folder (fileName (fileKey key)) = none)
    (hothers : IsSetAside folder (fileKey key) disk after) :
    Fills folder disk records key s after (Assoc.erase (fileKey key) records) := by
  refine ⟨h, ?_, fun other ho => ?_⟩
  · rw [slot, hnode, Assoc.lookup_erase_self, hs]
  · rw [slot, slot, Assoc.lookup_erase_of_ne ho,
      hothers _ (fileName_ne_indexName other) fun heq => ho (fileName_inj heq)]

theorem Shelves.run_removeEntry (h : Shelves disk folder records) (key : Text) :
    ∃ after records', Disk.run (removeEntry (fileKey key)) disk = (.ok (), after) ∧
      Fills folder disk records key (slot folder disk records key).removed after records' := by
  have hown := isOwnName_file key
  have hlink := h.houses.links _ hown
  rw [removeEntry, Disk.run_bind, Disk.run_exists, h.houses.answer_exists hown]
  cases hnode : disk.node? folder (fileName (fileKey key)) with
  | none =>
    obtain ⟨after, hrun, hafter, hothers⟩ := h.run_removeRecord (fileKey key)
    refine ⟨after, _, ?_, fills_of_erase hafter ?_ ?_ fun name hi _ => hothers name hi⟩
    · simp only [Option.isSome_none, Bool.false_eq_true, if_false, hrun]
    · rw [slot, hnode]
      rfl
    · rw [hothers _ (fileName_ne_indexName key), hnode]
  | some node =>
    simp only [Option.isSome_some, if_true, Disk.run_bind, Disk.run_unlink]
    cases node with
    | folder =>
      have hself := h.fills_self key
      rw [slot, hnode] at hself ⊢
      rw [h.houses.answer_unlink_folder hown hnode]
      exact ⟨disk, records, rfl, hself⟩
    | file content =>
      obtain ⟨between, hunlink, hchange⟩ := h.houses.answer_unlink hown hnode
      have hbetween := h.of_same_index hchange.houses
        (hchange.others _ (Ne.symm (fileName_ne_indexName key)))
      obtain ⟨after, hrun, hafter, hothers⟩ := hbetween.run_removeRecord (fileKey key)
      refine ⟨after, _, ?_, fills_of_erase hafter ?_ ?_ fun name hi hn => ?_⟩
      · simp only [hunlink, hrun]
      · rw [slot, hnode]
        rfl
      · rw [hothers _ (fileName_ne_indexName key), hchange.node]
        rfl
      · rw [hothers name hi, hchange.others name hn]
    | link goal => exact absurd hnode (hlink goal)

theorem Shelves.run_add (h : Shelves disk folder records) (now : Instant) (key : Text) (data : Json)
    (isError : Bool) :
    ∃ after records', Disk.run (add now key data isError) disk =
        (Entry.at now data isError, after) ∧
      Fills folder disk records key
        ((slot folder disk records key).stored key (Entry.at now data isError)) after records' := by
  have hown := isOwnName_file key
  rw [add, Disk.run_bind, Disk.run_write]
  by_cases hfolder : disk.node? folder (fileName (fileKey key)) = some .folder
  · have hself := h.fills_self key
    rw [slot, hfolder] at hself ⊢
    rw [h.houses.answer_write_folder hown hfolder]
    exact ⟨disk, records, rfl, hself⟩
  · obtain ⟨between, hwrite, hchange⟩ :=
      h.houses.answer_write hown hfolder (entryText (Entry.at now data isError))
    have hbetween := h.of_same_index hchange.houses
      (hchange.others _ (Ne.symm (fileName_ne_indexName key)))
    have hexact := h.exact.put (fileKey key) (isExact_indexRecord key (Entry.at now data isError))
    obtain ⟨after, hsave, hafter, hothers⟩ := hbetween.run_saveIndex hexact
    refine ⟨after, _, ?_, hafter, ?_, fun other ho => ?_⟩
    · simp only [hwrite, Disk.run_bind, hbetween.loads, putRecord, hsave]
      rfl
    · have hnode := (hothers _ (fileName_ne_indexName key)).trans hchange.node
      rw [slot, slot, hnode, Assoc.lookup_put_self]
      cases hold : disk.node? folder (fileName (fileKey key)) with
      | none => rfl
      | some node =>
        cases node with
        | folder => exact absurd hold hfolder
        | file content => rfl
        | link goal => rfl
    · have hne : fileName (fileKey other) ≠ fileName (fileKey key) := fun heq => ho (fileName_inj heq)
      rw [slot, slot, hothers _ (fileName_ne_indexName other), hchange.others _ hne,
        Assoc.lookup_put_of_ne ho]

/-- A slot whose time is not over is left as it is. -/
theorem Shelves.run_get_of_not_over (h : Shelves disk folder records)
    (hover : (slot folder disk records key).isOver ttl now = false) :
    Disk.run (get ttl now key) disk = ((slot folder disk records key).found ttl now, disk) := by
  have hread := readIn_eq h.houses (isOwnName_file key)
  rw [get]
  simp only [Disk.run_bind, Disk.run_exists, h.houses.answer_exists (isOwnName_file key)]
  rw [slot] at hover ⊢
  cases hnode : disk.node? folder (fileName (fileKey key)) with
  | none => rfl
  | some node =>
    simp only [Option.isSome_some, if_true, Disk.run_bind, h.loads, findRecord_object]
    cases hrecord : records.lookup (fileKey key) with
    | none => rfl
    | some record =>
      rw [hnode] at hread
      rw [hnode, hrecord] at hover
      dsimp only [Slot.found]
      cases htime : record.item "cached_at" with
      | error fault => rfl
      | ok time =>
        rw [Slot.isOver_some, hasLapsed_of_item htime] at hover
        simp only [hover, Bool.false_eq_true, if_false]
        rw [run_loadEntry_eq_entryIn, hread]

/-- Nothing is found in a slot whose time is over, and it is emptied. -/
theorem Shelves.run_get_of_over (h : Shelves disk folder records)
    (hover : (slot folder disk records key).isOver ttl now = true) :
    ∃ after records', Disk.run (get ttl now key) disk = (.ok none, after) ∧
      Fills folder disk records key (slot folder disk records key).removed after records' := by
  obtain ⟨after, records', hremove, hfills⟩ := h.run_removeEntry key
  refine ⟨after, records', ?_, hfills⟩
  rw [slot] at hover
  rw [get]
  simp only [Disk.run_bind, Disk.run_exists, h.houses.answer_exists (isOwnName_file key)]
  cases hnode : disk.node? folder (fileName (fileKey key)) with
  | none =>
    rw [hnode] at hover
    cases hover
  | some node =>
    simp only [Option.isSome_some, if_true, Disk.run_bind, h.loads, findRecord_object]
    cases hrecord : records.lookup (fileKey key) with
    | none =>
      rw [hnode, hrecord] at hover
      cases hover
    | some record =>
      rw [hnode, hrecord] at hover
      dsimp only
      cases htime : record.item "cached_at" with
      | error fault =>
        rw [Slot.isOver_some, hasLapsed_of_error htime] at hover
        cases hover
      | ok time =>
        rw [Slot.isOver_some, hasLapsed_of_item htime] at hover
        simp only [hover, if_true, Disk.run_bind, hremove]
        rfl

theorem Slot.found_of_over {s : Slot} (h : s.isOver ttl now = true) :
    s.found ttl now = .ok none := by
  obtain ⟨node, record⟩ := s
  cases node with
  | none => rfl
  | some node =>
    cases record with
    | none => rfl
    | some record =>
      rw [Slot.found]
      cases htime : record.item "cached_at" with
      | error fault =>
        rw [isOver_some, hasLapsed_of_error htime] at h
        cases h
      | ok time =>
        rw [isOver_some, hasLapsed_of_item htime] at h
        simp only [h, if_true]

/-- A look-up finds what its slot tells, and empties the slot when its time is over. -/
theorem Shelves.run_get (h : Shelves disk folder records) (ttl : Span) (now : Instant) (key : Text) :
    ∃ after records', Disk.run (get ttl now key) disk =
        ((slot folder disk records key).found ttl now, after) ∧
      Fills folder disk records key ((slot folder disk records key).lookedUp ttl now) after
        records' := by
  cases hover : (slot folder disk records key).isOver ttl now with
  | false =>
    rw [Slot.lookedUp, hover, if_neg Bool.false_ne_true]
    exact ⟨disk, records, h.run_get_of_not_over hover, h.fills_self key⟩
  | true =>
    rw [Slot.lookedUp, hover, if_pos rfl, Slot.found_of_over hover]
    exact h.run_get_of_over hover

/-- Where the index has no records, a look-up leaves the disk as it is. -/
theorem run_get_of_no_records
    (h : ∀ records, indexIn (readIn disk indexName) ≠ .ok (.object records)) (ttl : Span)
    (now : Instant) (key : Text) : (Disk.run (get ttl now key) disk).2 = disk := by
  have hfind : ∀ index, (∀ records, index ≠ .object records) → ∀ record,
      findRecord index (fileKey key) ≠ .ok (some record) := by
    intro index hindex record hfound
    obtain ⟨there, hthere, hrest⟩ := Steps.bind_eq_ok_iff.1 hfound
    cases there with
    | false => cases hrest
    | true =>
      obtain ⟨item, hitem, -⟩ := Steps.bind_eq_ok_iff.1 hrest
      cases index with
      | object records => exact hindex records rfl
      | null | bool _ | int _ | float _ | text _ | list _ => cases hitem
  rw [get, Disk.run_bind, Disk.run_exists, Disk.answer]
  dsimp only
  split
  · rw [Disk.run_bind, run_loadIndex_eq]
    cases hindex : indexIn (readIn disk indexName) with
    | error fault => rfl
    | ok index =>
      have hnone := hfind index fun records he => h records (hindex.trans (congrArg _ he))
      dsimp only
      split
      · rfl
      · rfl
      · next record hfound => exact absurd hfound (hnone record)
  · rfl

end FileCache

end QueryFence
