import Mathlib
import QueryFence.Proofs.Cycle
import QueryFence.Proofs.Cache.Folder
import QueryFence.Proofs.Files.Change
import QueryFence.Proofs.Json.Exact

/-!
The cache in a folder of which anything may have become: its files may be missing, hold any text, or be
folders. Its operations end well for just those states of the index and of the file of a key that are told
here; storing always gives the new outcome.
-/

namespace QueryFence.FileCache

/-! What the plans of the cache come to, by what is read. -/

/-- The index by what is read in its place. -/
def indexIn : Except StorageError Text → Except Fault Json
  | .error .missing => .ok (.object [])
  | .error e => .error (storageFault e)
  | .ok content =>
    match Json.read content with
    | .ok index => .ok index
    | .error (.malformed _ _ _ _) => .ok (.object [])
    | .error e => .error (.badValue e.message)

/-- An outcome by what is read in the place of its file. -/
def entryIn : Except StorageError Text → Except Fault (Option Json)
  | .error .missing => .ok none
  | .error e => .error (storageFault e)
  | .ok content =>
    match Json.read content with
    | .ok .null => .ok none
    | .ok v => .ok (some v)
    | .error (.malformed _ _ _ _) => .ok none
    | .error e => .error (.badValue e.message)

/-- What is read under a name of the home. -/
def readIn (disk : Disk) (name : Text) : Except StorageError Text := disk.tree.read (disk.steps name)

variable {disk : Disk} {key : Text}

theorem run_loadIndex_eq (disk : Disk) :
    Disk.run loadIndex disk = (indexIn (readIn disk indexName), disk) := by
  rw [loadIndex, Disk.run_bind, Disk.run_read, Disk.answer]
  change _ = (indexIn (disk.tree.read (disk.steps indexName)), disk)
  cases disk.tree.read (disk.steps indexName) with
  | error e => cases e <;> rfl
  | ok content =>
    simp only [indexIn]
    cases Json.read content with
    | ok index => rfl
    | error e => cases e <;> rfl

theorem run_loadEntry_eq_entryIn (k : Text) (disk : Disk) :
    Disk.run (loadEntry k) disk = (entryIn (readIn disk (fileName k)), disk) := by
  rw [loadEntry, Disk.run_bind, Disk.run_read, Disk.answer]
  change _ = (entryIn (disk.tree.read (disk.steps (fileName k))), disk)
  cases disk.tree.read (disk.steps (fileName k)) with
  | error e => cases e <;> rfl
  | ok content =>
    simp only [entryIn]
    cases Json.read content with
    | ok v => cases v <;> rfl
    | error e => cases e <;> rfl

/-- Storing gives the new outcome, whatever became of the folder. -/
theorem run_add_fst (now : Instant) (key : Text) (data : Json) (isError : Bool) (disk : Disk) :
    (Disk.run (add now key data isError) disk).1 = Entry.at now data isError := by
  rw [add, Disk.run_bind]
  split
  · rfl
  · rw [Disk.run_bind]
    split
    · rfl
    · split
      · rfl
      · rfl

/-- What may be read in the place of the index while it can be used: nothing, no JSON, or an object whose
records all tell when they were stored. -/
inductive IsFitIndex : Except StorageError Text → Prop
  | missing : IsFitIndex (.error .missing)
  | malformed {content : Text} {cause : Json.ReadCause} {line column offset : Nat}
      (h : Json.read content = .error (.malformed cause line column offset)) :
    IsFitIndex (.ok content)
  | records {content : Text} {records : List (Text × Json)}
      (h : Json.read content = .ok (.object records))
      (times : ∀ record ∈ records, ∃ time, record.2.item "cached_at" = .ok time) :
    IsFitIndex (.ok content)

theorem isFitIndex_iff {read : Except StorageError Text} :
    IsFitIndex read ↔ ∃ records, indexIn read = .ok (.object records) ∧
      ∀ record ∈ records, ∃ time, record.2.item "cached_at" = .ok time := by
  constructor
  · rintro (_ | h | ⟨h, times⟩)
    · exact ⟨[], rfl, fun _ hm => absurd hm List.not_mem_nil⟩
    · refine ⟨[], ?_, fun _ hm => absurd hm List.not_mem_nil⟩
      simp only [indexIn, h]
    · exact ⟨_, by simp only [indexIn, h], times⟩
  · rintro ⟨records, hindex, times⟩
    rw [indexIn.eq_def] at hindex
    split at hindex
    · exact .missing
    · cases hindex
    · split at hindex
      · next h =>
        cases hindex
        exact .records h times
      · next h => exact .malformed h
      · cases hindex

/-- The records that are read from the index of a folder, which all tell when they were stored. -/
structure HasRecords (disk : Disk) (records : List (Text × Json)) : Prop where
  index : indexIn (readIn disk indexName) = .ok (.object records)
  times : ∀ record ∈ records, ∃ time, record.2.item "cached_at" = .ok time

variable {records : List (Text × Json)}

theorem isFitIndex_readIn_iff :
    IsFitIndex (readIn disk indexName) ↔ ∃ records, HasRecords disk records :=
  isFitIndex_iff.trans (exists_congr fun _ => ⟨fun ⟨hi, ht⟩ => ⟨hi, ht⟩, fun h => ⟨h.index, h.times⟩⟩)

theorem HasRecords.loads (h : HasRecords disk records) :
    Disk.run loadIndex disk = (.ok (.object records), disk) := by
  rw [run_loadIndex_eq, h.index]

/-- The records of an index are exact, since they were read from a text. -/
theorem isExact_of_indexIn (h : indexIn (readIn disk indexName) = .ok (.object records)) :
    (Json.object records).IsExact := by
  rw [indexIn.eq_def] at h
  split at h
  · cases h
    exact ⟨List.nodup_nil, trivial⟩
  · cases h
  · split at h
    · next hread =>
      cases h
      exact Json.isExact_of_read hread
    · cases h
      exact ⟨List.nodup_nil, trivial⟩
    · cases h

theorem HasRecords.isExact (h : HasRecords disk records) : (Json.object records).IsExact :=
  isExact_of_indexIn h.index

/-- Saving the index with fewer records may fail, and then it is as it was. -/
theorem HasRecords.run_saveIndex (h : HasRecords disk records) {fewer : List (Text × Json)}
    (hf : fewer.Sublist records) :
    ∃ after left, Disk.run (saveIndex (.object fewer)) disk = ((), after) ∧ HasRecords after left := by
  have hexact := h.isExact.sublist hf
  rw [saveIndex, Disk.run_bind, Disk.run_write, Disk.answer]
  cases hwrite : disk.tree.write (disk.steps indexName) (Json.object fewer).writeIndented with
  | error e => exact ⟨disk, records, rfl, h⟩
  | ok t =>
    refine ⟨{ disk with tree := t }, fewer, rfl, ?_, fun record hm => h.times record (hf.subset hm)⟩
    have hread : readIn { disk with tree := t } indexName = .ok (Json.object fewer).writeIndented :=
      FileTree.read_of_write hwrite
    rw [hread]
    simp only [indexIn, Json.read_writeIndented hexact]

theorem HasRecords.run_removeRecord (h : HasRecords disk records) (k : Text) :
    ∃ after left, Disk.run (removeRecord k) disk = (.ok (), after) ∧ HasRecords after left := by
  have hcontains : (Json.object records).contains k = .ok (records.lookup k).isSome := rfl
  rw [removeRecord, Disk.run_bind, h.loads]
  simp only [hcontains]
  cases records.lookup k with
  | none => exact ⟨disk, records, rfl, h⟩
  | some record =>
    obtain ⟨after, left, hsave, hleft⟩ := h.run_saveIndex (Assoc.erase_sublist k records)
    refine ⟨after, left, ?_, hleft⟩
    simp only [Option.isSome_some, dropRecord, Disk.run_bind, hsave]
    rfl

/-- Where a file was removed the index is as before, or it was the index, which is then missing. -/
theorem HasRecords.of_unlink (h : HasRecords disk records) {t : FileTree} {name : Text}
    (hu : disk.tree.unlink (disk.steps name) = .ok t) :
    ∃ left, HasRecords { disk with tree := t } left := by
  have hread : readIn { disk with tree := t } indexName = readIn disk indexName ∨
      readIn { disk with tree := t } indexName = .error .missing :=
    FileTree.read_of_unlink hu _
  rcases hread with hread | hread
  · exact ⟨records, by rw [hread]; exact h.index, h.times⟩
  · exact ⟨[], by rw [hread]; rfl, fun _ hm => absurd hm List.not_mem_nil⟩

theorem HasRecords.run_removeEntry (h : HasRecords disk records) (k : Text) :
    ∃ after left, Disk.run (removeEntry k) disk = (.ok (), after) ∧ HasRecords after left := by
  rw [removeEntry, Disk.run_bind, Disk.run_exists, Disk.answer]
  dsimp only
  split
  · rw [Disk.run_bind, Disk.run_unlink, Disk.answer]
    cases hunlink : disk.tree.unlink (disk.steps (fileName k)) with
    | error e => exact ⟨disk, records, rfl, h⟩
    | ok t =>
      obtain ⟨left, hleft⟩ := h.of_unlink hunlink
      exact hleft.run_removeRecord k
  · exact h.run_removeRecord k

theorem HasRecords.run_removeAll (h : HasRecords disk records) (keys : List Text) :
    ∃ after left, Disk.run (removeAll keys) disk = (.ok (), after) ∧ HasRecords after left := by
  induction keys generalizing disk records with
  | nil => exact ⟨disk, records, rfl, h⟩
  | cons k keys ih =>
    obtain ⟨between, left, hrun, hleft⟩ := h.run_removeEntry k
    obtain ⟨after, last, hmore, hlast⟩ := ih hleft
    refine ⟨after, last, ?_, hlast⟩
    rw [removeAll, Disk.run_bind, hrun]
    exact hmore

/-- The expired records are found just where every record tells when it was stored. -/
theorem expiredKeys_eq_ok_iff (ttl : Span) (now : Instant) :
    (∃ keys, expiredKeys ttl now records = .ok keys) ↔
      ∀ record ∈ records, ∃ time, record.2.item "cached_at" = .ok time := by
  induction records with
  | nil => exact ⟨fun _ _ hm => absurd hm List.not_mem_nil, fun _ => ⟨[], rfl⟩⟩
  | cons record records ih =>
    rw [List.forall_mem_cons, ← ih, expiredKeys]
    cases record.2.item "cached_at" with
    | error fault => simp [bind, Except.bind]
    | ok time => cases expiredKeys ttl now records <;> simp [bind, Except.bind, pure, Except.pure]

theorem HasRecords.run_cleanup (h : HasRecords disk records) (ttl : Span) (now : Instant) :
    ∃ count, (Disk.run (cleanup ttl now) disk).1 = .ok count := by
  obtain ⟨keys, hkeys⟩ := (expiredKeys_eq_ok_iff ttl now).2 h.times
  obtain ⟨after, left, hrun, -⟩ := h.run_removeAll keys
  refine ⟨keys.length, ?_⟩
  rw [cleanup, Disk.run_bind, h.loads]
  simp only [hkeys, Disk.run_bind, hrun]
  rfl

/-- Cleaning up ends well just where the index can be used. -/
theorem run_cleanup_eq_ok_iff (ttl : Span) (now : Instant) (disk : Disk) :
    (∃ count, (Disk.run (cleanup ttl now) disk).1 = .ok count) ↔
      IsFitIndex (readIn disk indexName) := by
  rw [isFitIndex_readIn_iff]
  constructor
  · rintro ⟨count, h⟩
    rw [cleanup, Disk.run_bind, run_loadIndex_eq] at h
    dsimp only at h
    split at h
    · cases h
    · next records hindex =>
      refine ⟨records, hindex, (expiredKeys_eq_ok_iff ttl now).1 ?_⟩
      split at h
      · cases h
      · next keys hkeys => exact ⟨keys, hkeys⟩
    · cases h
  · rintro ⟨records, h⟩
    exact h.run_cleanup ttl now

/-- What a look-up gives where the index can be used: what is read of the outcome while its file is there
and a record of it has not lapsed. -/
theorem HasRecords.run_get_fst (h : HasRecords disk records) (ttl : Span) (now : Instant)
    (key : Text) :
    (Disk.run (get ttl now key) disk).1 =
      if disk.tree.isThere (disk.steps (fileName (fileKey key))) &&
          (records.lookup (fileKey key)).any (!hasLapsed ttl now ·) then
        entryIn (readIn disk (fileName (fileKey key)))
      else .ok none := by
  rw [get]
  simp only [Disk.run_bind, Disk.run_exists, Disk.answer]
  by_cases hthere : disk.tree.isThere (disk.steps (fileName (fileKey key))) = true
  · simp only [hthere, if_true, Disk.run_bind, h.loads, findRecord_object, Bool.true_and]
    cases hrecord : records.lookup (fileKey key) with
    | none => rfl
    | some record =>
      obtain ⟨time, htime⟩ := h.times _ (Assoc.mem_of_lookup_eq_some hrecord)
      simp only [htime, hasLapsed, Option.any_some]
      cases isExpired ttl now time with
      | false => exact congrArg Prod.fst (run_loadEntry_eq_entryIn _ disk)
      | true =>
        obtain ⟨after, left, hremove, -⟩ := h.run_removeEntry (fileKey key)
        simp only [if_true, Disk.run_bind, hremove]
        rfl
  · simp only [hthere, Bool.false_and]
    rfl

/-- An object that has the data of an outcome, whether it is a failure, and when it was stored. -/
structure IsOutcome (v : Json) : Prop where
  data : ∃ data, v.item "data" = .ok data
  isError : ∃ isError, v.item "is_error" = .ok isError
  time : ∃ time moment, v.item "time" = .ok (.text time) ∧ Iso.read time = some moment

/-- What may be read in the place of an outcome's file: nothing, no JSON, null, or an outcome. -/
inductive IsFitEntry : Except StorageError Text → Prop
  | missing : IsFitEntry (.error .missing)
  | malformed {content : Text} {cause : Json.ReadCause} {line column offset : Nat}
      (h : Json.read content = .error (.malformed cause line column offset)) :
    IsFitEntry (.ok content)
  | null {content : Text} (h : Json.read content = .ok .null) : IsFitEntry (.ok content)
  | outcome {content : Text} {v : Json} (h : Json.read content = .ok v) (ho : IsOutcome v) :
    IsFitEntry (.ok content)

theorem isFitEntry_iff {read : Except StorageError Text} :
    IsFitEntry read ↔ ∃ found, entryIn read = .ok found ∧ ∀ v, found = some v → IsOutcome v := by
  constructor
  · rintro (_ | h | h | ⟨h, ho⟩)
    · exact ⟨none, rfl, nofun⟩
    · exact ⟨none, by simp only [entryIn, h], nofun⟩
    · exact ⟨none, by simp only [entryIn, h], nofun⟩
    · obtain ⟨data, hdata⟩ := ho.data
      have hnull : ∀ _ : Json.null.item "data" = .ok data, False := nofun
      refine ⟨some _, ?_, fun v hv => Option.some.inj hv ▸ ho⟩
      simp only [entryIn, h]
      split
      · next hv => exact (hnull (Except.ok.inj hv ▸ hdata)).elim
      · next hv => rw [Except.ok.inj hv]
      · next hv => cases hv
      · next hv => cases hv
  · rintro ⟨found, hentry, hfound⟩
    rw [entryIn.eq_def] at hentry
    split at hentry
    · exact .missing
    · cases hentry
    · split at hentry
      · next h => exact .null h
      · next h =>
        cases hentry
        exact .outcome h (hfound _ rfl)
      · next h => exact .malformed h
      · cases hentry

theorem shownTime_eq_ok_iff {v : Json} :
    (∃ t, shownTime v = .ok t) ↔
      ∃ time moment, v.item "time" = .ok (.text time) ∧ Iso.read time = some moment := by
  rw [shownTime]
  cases v.item "time" with
  | error fault => simp [bind, Except.bind]
  | ok time =>
    cases time with
    | text t => cases hread : Iso.read t <;> simp [bind, Except.bind, pure, Except.pure, hread]
    | null | bool _ | int _ | float _ | list _ | object _ => simp [bind, Except.bind]

/-- The operations of the cache end as they should in the state that its folder is in: a look-up finds
nothing or an object with the data of an outcome, its kind and its time; the time can be shown; storing gives the
new outcome; and removing an outcome and cleaning up come to their end. (Clearing has no other end.) -/
structure EndsWell (c : FileCache) (now : Instant) (key : Text) : Prop where
  get : ∃ found, (ResultCache.get c now key).1 = .ok found ∧ ∀ v, found = some v →
    (∃ data, v.item "data" = .ok data) ∧ (∃ isError, v.item "is_error" = .ok isError) ∧
      ∃ time, v.item "time" = .ok time
  getTime : ∃ t, (ResultCache.getTime c now key).1 = .ok t
  add : ∀ data isError,
    (ResultCache.add c now key data isError).1 = .ok (Entry.at now data isError).toJson
  delete : (ResultCache.delete c key).1 = .ok ()
  cleanup : ∃ count, (c.perform (FileCache.cleanup c.ttl now)).1 = .ok count

/-- The folder of a cache holds nothing that the cache cannot deal with: a fit index, and, where it has a
record of the key that has not lapsed and something is there under the key, a fit entry. -/
structure IsIntact (c : FileCache) (now : Instant) (key : Text) : Prop where
  index : IsFitIndex (readIn c.disk indexName)
  entry : ∀ records, indexIn (readIn c.disk indexName) = .ok (.object records) →
    (records.lookup (fileKey key)).any (!hasLapsed c.ttl now ·) = true →
    c.disk.tree.isThere (c.disk.steps (fileName (fileKey key))) = true →
    IsFitEntry (readIn c.disk (fileName (fileKey key)))

section Cache

variable {c : FileCache} {now : Instant}

/-- The found object tells its outcome just where a look-up ends well and the time can be shown. -/
theorem isOutcome_of_endsWell (h : c.EndsWell now key) :
    ∃ found, (ResultCache.get c now key).1 = .ok found ∧ ∀ v, found = some v → IsOutcome v := by
  obtain ⟨found, hget, hfound⟩ := h.get
  refine ⟨found, hget, fun v hv => ?_⟩
  subst hv
  obtain ⟨hdata, hisError, -⟩ := hfound v rfl
  obtain ⟨t, ht⟩ := h.getTime
  rw [Cycle.getTime_fst_eq, hget] at ht
  exact ⟨hdata, hisError, shownTime_eq_ok_iff.1 ⟨t, ht⟩⟩

theorem EndsWell.isIntact (h : c.EndsWell now key) : c.IsIntact now key := by
  have hindex := (run_cleanup_eq_ok_iff c.ttl now c.disk).1 h.cleanup
  refine ⟨hindex, fun records hi hlive hthere => isFitEntry_iff.2 ?_⟩
  obtain ⟨records', hrecords⟩ := isFitIndex_readIn_iff.1 hindex
  cases hi.symm.trans hrecords.index
  obtain ⟨found, hget, hfound⟩ := isOutcome_of_endsWell h
  have hgiven : (ResultCache.get c now key).1 = _ := hrecords.run_get_fst c.ttl now key
  rw [hlive, hthere] at hgiven
  exact ⟨found, hgiven.symm.trans hget, hfound⟩

theorem IsIntact.exists_found (h : c.IsIntact now key) :
    ∃ found, (ResultCache.get c now key).1 = .ok found ∧ ∀ v, found = some v → IsOutcome v := by
  obtain ⟨records, hrecords⟩ := isFitIndex_readIn_iff.1 h.index
  have hgiven : (ResultCache.get c now key).1 = _ := hrecords.run_get_fst c.ttl now key
  split at hgiven
  · next hboth =>
    obtain ⟨hthere, hlive⟩ := Bool.and_eq_true_iff.1 hboth
    obtain ⟨found, hentry, hfound⟩ := isFitEntry_iff.1 (h.entry records hrecords.index hlive hthere)
    exact ⟨found, hgiven.trans hentry, hfound⟩
  · exact ⟨none, hgiven, nofun⟩

theorem IsIntact.endsWell (h : c.IsIntact now key) : c.EndsWell now key where
  get := by
    obtain ⟨found, hget, hfound⟩ := h.exists_found
    refine ⟨found, hget, fun v hv => ?_⟩
    obtain ⟨time, moment, htime, -⟩ := (hfound v hv).time
    exact ⟨(hfound v hv).data, (hfound v hv).isError, _, htime⟩
  getTime := by
    obtain ⟨found, hget, hfound⟩ := h.exists_found
    rw [Cycle.getTime_fst_eq, hget]
    cases found with
    | none => exact ⟨missingTime, rfl⟩
    | some v => exact shownTime_eq_ok_iff.2 (hfound v rfl).time
  add data isError := congrArg (Except.ok ·.toJson) (run_add_fst now key data isError c.disk)
  delete := by
    obtain ⟨records, hrecords⟩ := isFitIndex_readIn_iff.1 h.index
    obtain ⟨after, left, hrun, -⟩ := hrecords.run_removeEntry (fileKey key)
    exact congrArg Prod.fst hrun
  cleanup := (run_cleanup_eq_ok_iff c.ttl now c.disk).2 h.index

end Cache

end QueryFence.FileCache
