import QueryFence.Proofs.Cache.Attach
import QueryFence.Proofs.Cache.History
import QueryFence.Proofs.Files.Custody

/-!
The cache in a folder, call by call: what cleaning up, clearing and opening it again do to the file and
the record of a key, and what a look-up gives where both are there.
-/

namespace QueryFence.FileCache

/-! The plans of the cache touch only its own names. -/

abbrev IsOwnAction : DiskAction → Prop := Disk.IsOwnAction IsOwnName

theorem loadIndex_asks : loadIndex.Asks IsOwnAction := by
  apply (Disk.asks_read isOwnName_index).bind
  intro reply
  split
  · trivial
  · trivial
  · split <;> trivial

theorem saveIndex_asks (index : Json) : (saveIndex index).Asks IsOwnAction :=
  (Disk.asks_write isOwnName_index _).bind fun _ => trivial

theorem removeRecord_asks (fileKey : Text) : (removeRecord fileKey).Asks IsOwnAction := by
  apply loadIndex_asks.bind
  intro loaded
  split
  · trivial
  · trivial
  · split
    · trivial
    · trivial
    · split
      · trivial
      · exact (saveIndex_asks _).bind fun _ => trivial

theorem removeEntry_asks (key : Text) : (removeEntry (fileKey key)).Asks IsOwnAction := by
  apply (Disk.asks_exists (isOwnName_file key)).bind
  intro there
  split
  · apply (Disk.asks_unlink (isOwnName_file key)).bind
    intro reply
    split
    · trivial
    · exact removeRecord_asks _
  · exact removeRecord_asks _

theorem loadEntry_asks (key : Text) : (loadEntry (fileKey key)).Asks IsOwnAction := by
  apply (Disk.asks_read (isOwnName_file key)).bind
  intro reply
  split
  · trivial
  · trivial
  · split <;> trivial

theorem get_asks (ttl : Span) (now : Instant) (key : Text) :
    (get ttl now key).Asks IsOwnAction := by
  apply (Disk.asks_exists (isOwnName_file key)).bind
  intro there
  split
  · apply loadIndex_asks.bind
    intro loaded
    split
    · trivial
    · split
      · trivial
      · trivial
      · split
        · trivial
        · split
          · apply (removeEntry_asks key).bind
            intro removed
            split <;> trivial
          · exact loadEntry_asks key
  · trivial

theorem add_asks (now : Instant) (key : Text) (data : Json) (isError : Bool) :
    (add now key data isError).Asks IsOwnAction := by
  apply (Disk.asks_write (isOwnName_file key) _).bind
  intro reply
  split
  · trivial
  · apply loadIndex_asks.bind
    intro loaded
    split
    · trivial
    · split
      · trivial
      · exact (saveIndex_asks _).bind fun _ => trivial

theorem prepare_asks : prepare.Asks IsOwnAction := by
  apply (Disk.asks_exists isOwnName_index).bind
  intro there
  split
  · trivial
  · exact saveIndex_asks _

/-- A file key of some key. -/
def IsFileKey (k : Text) : Prop := ∃ key, k = fileKey key

theorem removeAll_asks {keys : List Text} (h : ∀ k ∈ keys, IsFileKey k) :
    (removeAll keys).Asks IsOwnAction := by
  induction keys with
  | nil => trivial
  | cons k keys ih =>
    obtain ⟨key, rfl⟩ := h k List.mem_cons_self
    apply (removeEntry_asks key).bind
    intro removed
    split
    · trivial
    · exact ih fun other hm => h other (List.mem_cons_of_mem _ hm)

theorem unlinkAll_asks {names : List Text} (h : ∀ name ∈ names, IsOwnName name) :
    (unlinkAll names).Asks IsOwnAction := by
  induction names with
  | nil => trivial
  | cons name names ih =>
    apply (Disk.asks_unlink (h name List.mem_cons_self)).bind
    intro reply
    split
    · trivial
    · exact ih fun other hm => h other (List.mem_cons_of_mem name hm)

/-! What single calls do to the file and the record of a key. -/

theorem fileName_inj {a b : Text} (h : fileName a = fileName b) : a = b :=
  List.append_cancel_right h

/-- The file and the record of a key are what they were. -/
structure IsSame (folder : Path) (disk : Disk) (records : List (Text × Json)) (after : Disk)
    (records' : List (Text × Json)) (key : Text) : Prop where
  content : after.content? folder (fileName (fileKey key)) =
    disk.content? folder (fileName (fileKey key))
  record : records'.lookup (fileKey key) = records.lookup (fileKey key)

variable {disk after : Disk} {folder : Path} {records records' : List (Text × Json)} {key : Text}

theorem IsSame.trans {last : Disk} {records'' : List (Text × Json)}
    (h : IsSame folder disk records after records' key)
    (h' : IsSame folder after records' last records'' key) :
    IsSame folder disk records last records'' key :=
  ⟨h'.content.trans h.content, h'.record.trans h.record⟩

theorem IsUntouched.isSame {other : Text} (h : IsUntouched folder (fileKey other) disk after)
    (hr : records'.lookup (fileKey key) = records.lookup (fileKey key))
    (hne : fileKey key ≠ fileKey other) : IsSame folder disk records after records' key :=
  ⟨h _ (fileName_ne_indexName key) fun he => hne (fileName_inj he), hr⟩

/-- Some outcomes were removed, and the others are what they were. -/
structure IsWithout (folder : Path) (disk : Disk) (records : List (Text × Json)) (after : Disk)
    (removed : Text → Prop) (records' : List (Text × Json)) : Prop where
  indexes : Indexes after folder records'
  rest : records'.Sublist records
  gone : ∀ key, removed (fileKey key) → after.content? folder (fileName (fileKey key)) = none
  dropped : ∀ key, removed (fileKey key) → records'.lookup (fileKey key) = none
  others : ∀ key, ¬ removed (fileKey key) → IsSame folder disk records after records' key

theorem isWithout_erase {other : Text} (hi : Indexes after folder (Assoc.erase (fileKey other) records))
    (hgone : after.content? folder (fileName (fileKey other)) = none)
    (hothers : IsUntouched folder (fileKey other) disk after) :
    IsWithout folder disk records after (· = fileKey other)
      (Assoc.erase (fileKey other) records) where
  indexes := hi
  rest := Assoc.erase_sublist _ _
  gone key hk := by
    rw [hk]
    exact hgone
  dropped key hk := by
    rw [hk]
    exact Assoc.lookup_erase_self _ _
  others key hk := hothers.isSame (Assoc.lookup_erase_of_ne hk _) hk

/-- The records whose file keys are not among some. -/
def recordsWithout (keys : List Text) (records : List (Text × Json)) : List (Text × Json) :=
  records.filter fun record => !keys.contains record.1

theorem recordsWithout_cons (k : Text) (keys : List Text) (records : List (Text × Json)) :
    recordsWithout (k :: keys) records = recordsWithout keys (Assoc.erase k records) := by
  rw [recordsWithout, recordsWithout, Assoc.erase, List.filter_filter]
  refine congrArg (fun f => records.filter f) (funext fun record => ?_)
  by_cases hk : record.1 = k
  · simp [hk]
  · simp [hk]

theorem Indexes.run_removeAll (h : Indexes disk folder records) {keys : List Text}
    (hk : ∀ k ∈ keys, IsFileKey k) :
    ∃ after, Disk.run (removeAll keys) disk = (.ok (), after) ∧
      IsWithout folder disk records after (· ∈ keys) (recordsWithout keys records) := by
  induction keys generalizing disk records with
  | nil =>
    have hall : recordsWithout [] records = records := List.filter_eq_self.2 fun _ _ => rfl
    rw [hall]
    exact ⟨disk, rfl, h, List.Sublist.refl _, fun _ hm => absurd hm List.not_mem_nil,
      fun _ hm => absurd hm List.not_mem_nil, fun _ _ => ⟨rfl, rfl⟩⟩
  | cons k keys ih =>
    obtain ⟨key, rfl⟩ := hk k List.mem_cons_self
    obtain ⟨between, hremove, hbetween, hgone, huntouched⟩ := h.run_removeEntry key
    obtain ⟨after, hrun, hw⟩ :=
      ih hbetween fun other hm => hk other (List.mem_cons_of_mem _ hm)
    rw [recordsWithout_cons]
    refine ⟨after, ?_, hw.indexes, hw.rest.trans (Assoc.erase_sublist _ _), ?_, ?_, ?_⟩
    · rw [removeAll, Disk.run_bind, hremove]
      exact hrun
    · intro other hm
      by_cases hin : fileKey other ∈ keys
      · exact hw.gone other hin
      · rw [(hw.others other hin).content, (List.mem_cons.1 hm).resolve_right hin]
        exact hgone
    · intro other hm
      by_cases hin : fileKey other ∈ keys
      · exact hw.dropped other hin
      · rw [(hw.others other hin).record, (List.mem_cons.1 hm).resolve_right hin]
        exact Assoc.lookup_erase_self _ _
    · intro other hm
      rw [List.mem_cons, not_or] at hm
      obtain ⟨hne, hin⟩ := hm
      exact (huntouched.isSame (Assoc.lookup_erase_of_ne hne _) hne).trans (hw.others other hin)

/-- The records tell of an outcome that its time is over. -/
def IsOutdated (ttl : Span) (now : Instant) (records : List (Text × Json)) (k : Text) : Prop :=
  ∃ key e, (k, indexRecord key e) ∈ records ∧ isExpired ttl now (.text e.time) = true

/-- Whether a record tells that its time is over. -/
def hasLapsed (ttl : Span) (now : Instant) (record : Json) : Bool :=
  match record.item "cached_at" with
  | .ok time => isExpired ttl now time
  | .error _ => false

theorem hasLapsed_indexRecord (ttl : Span) (now : Instant) (key : Text) (e : Entry) :
    hasLapsed ttl now (indexRecord key e) = isExpired ttl now (.text e.time) := rfl

/-- The file keys of the records that have lapsed, in their order. -/
def lapsedKeys (ttl : Span) (now : Instant) (records : List (Text × Json)) : List Text :=
  (records.filter (hasLapsed ttl now ·.2)).map Prod.fst

theorem expiredKeys_eq_lapsedKeys (ttl : Span) (now : Instant) {records : List (Text × Json)}
    (h : ∀ k record, (k, record) ∈ records → ∃ key e, record = indexRecord key e) :
    expiredKeys ttl now records = .ok (lapsedKeys ttl now records) := by
  induction records with
  | nil => rfl
  | cons pair records ih =>
    obtain ⟨k, record⟩ := pair
    obtain ⟨key, e, rfl⟩ := h k record List.mem_cons_self
    have hmore := ih fun k' r hm => h k' r (List.mem_cons_of_mem _ hm)
    have htime : (indexRecord key e).item "cached_at" = .ok (.text e.time) := rfl
    have hlapsed := hasLapsed_indexRecord ttl now key e
    rw [expiredKeys, htime, hmore]
    simp only [lapsedKeys, List.filter_cons, hlapsed, bind, Except.bind]
    split <;> rfl

theorem mem_lapsedKeys {ttl : Span} {now : Instant} {records : List (Text × Json)}
    (h : ∀ k record, (k, record) ∈ records → ∃ key e, record = indexRecord key e) (k : Text) :
    k ∈ lapsedKeys ttl now records ↔ IsOutdated ttl now records k := by
  constructor
  · intro hk
    obtain ⟨⟨k, record⟩, hfound, rfl⟩ := List.mem_map.1 hk
    obtain ⟨hm, hexp⟩ := List.mem_filter.1 hfound
    obtain ⟨key, e, rfl⟩ := h k record hm
    exact ⟨key, e, hm, hexp⟩
  · rintro ⟨key, e, hm, hexp⟩
    exact List.mem_map.2 ⟨_, List.mem_filter.2 ⟨hm, hexp⟩, rfl⟩

theorem expiredKeys_eq_ok (ttl : Span) (now : Instant) {records : List (Text × Json)}
    (h : ∀ k record, (k, record) ∈ records → ∃ key e, record = indexRecord key e) :
    ∃ keys, expiredKeys ttl now records = .ok keys ∧
      ∀ k, k ∈ keys ↔ IsOutdated ttl now records k :=
  ⟨_, expiredKeys_eq_lapsedKeys ttl now h, mem_lapsedKeys h⟩

/-- Where no file key stands twice, what is left without the lapsed ones are the records that have not
lapsed. -/
theorem recordsWithout_lapsedKeys {records : List (Text × Json)} (h : Assoc.HasDistinctKeys records)
    (ttl : Span) (now : Instant) :
    recordsWithout (lapsedKeys ttl now records) records =
      records.filter fun record => !hasLapsed ttl now record.2 := by
  refine List.filter_congr fun pair hm => congrArg (!·) (Bool.eq_iff_iff.2 ?_)
  obtain ⟨k, record⟩ := pair
  rw [List.contains_iff_mem]
  constructor
  · intro hk
    obtain ⟨⟨k', record'⟩, hfound, rfl⟩ := List.mem_map.1 hk
    obtain ⟨hm', hexp⟩ := List.mem_filter.1 hfound
    obtain rfl := Option.some.inj ((h.lookup_eq_some hm).symm.trans (h.lookup_eq_some hm'))
    exact hexp
  · exact fun hexp => List.mem_map.2 ⟨_, List.mem_filter.2 ⟨hm, hexp⟩, rfl⟩

theorem isFileKey_of_mem_lapsedKeys (hk : ∀ k ∈ records.map Prod.fst, IsFileKey k) (ttl : Span)
    (now : Instant) : ∀ k ∈ lapsedKeys ttl now records, IsFileKey k := by
  intro k hlapsed
  obtain ⟨record, hm, rfl⟩ := List.mem_map.1 hlapsed
  exact hk _ (List.mem_map_of_mem (List.mem_of_mem_filter hm))

/-- Cleaning up is removing the lapsed outcomes and counting them. -/
theorem Indexes.run_cleanup_eq (h : Indexes disk folder records) (ttl : Span) (now : Instant) :
    Disk.run (cleanup ttl now) disk =
      ((Disk.run (removeAll (lapsedKeys ttl now records)) disk).1.map
          fun _ => records.countP (hasLapsed ttl now ·.2),
        (Disk.run (removeAll (lapsedKeys ttl now records)) disk).2) := by
  have hlength : (lapsedKeys ttl now records).length = records.countP (hasLapsed ttl now ·.2) := by
    rw [lapsedKeys, List.length_map, List.countP_eq_length_filter]
  rw [cleanup, Disk.run_bind, h.run_loadIndex]
  simp only [expiredKeys_eq_lapsedKeys ttl now h.index.records, Disk.run_bind, hlength]
  split <;> next hr => rw [hr]; rfl

/-- Cleaning up removes every outcome whose record tells that its time is over, gives their number, and
leaves the other records in their order. -/
theorem Indexes.run_cleanup (h : Indexes disk folder records)
    (ht : disk.IsTidy folder IsOwnName isCacheFile)
    (hk : ∀ k ∈ records.map Prod.fst, IsFileKey k) (ttl : Span) (now : Instant) :
    ∃ after, Disk.run (cleanup ttl now) disk =
        (.ok (records.countP (hasLapsed ttl now ·.2)), after) ∧
      after.IsTidy folder IsOwnName isCacheFile ∧
      IsWithout folder disk records after (IsOutdated ttl now records)
        (records.filter fun record => !hasLapsed ttl now record.2) := by
  have hremoved : (· ∈ lapsedKeys ttl now records) = IsOutdated ttl now records :=
    funext fun k => propext (mem_lapsedKeys h.index.records k)
  have hfile := isFileKey_of_mem_lapsedKeys hk ttl now
  obtain ⟨after, hrun, hwithout⟩ := h.run_removeAll hfile
  have htidy := (h.keeps.run_isTidy ht (removeAll_asks hfile)).2
  rw [hrun] at htidy
  rw [hremoved, recordsWithout_lapsedKeys h.index.keys] at hwithout
  refine ⟨after, ?_, htidy, hwithout⟩
  rw [h.run_cleanup_eq, hrun]
  rfl

theorem run_unlinkAll (h : disk.Keeps folder IsOwnName) {names : List Text} (hn : names.Nodup)
    (hf : ∀ name ∈ names, IsOwnName name ∧ (disk.content? folder name).isSome = true) :
    ∃ after, Disk.run (unlinkAll names) disk = (true, after) ∧ after.Keeps folder IsOwnName ∧
      (∀ name ∈ names, after.content? folder name = none) ∧
      ∀ name, name ∉ names → after.content? folder name = disk.content? folder name := by
  induction names generalizing disk with
  | nil => exact ⟨disk, rfl, h, fun _ hm => absurd hm List.not_mem_nil, fun _ _ => rfl⟩
  | cons name names ih =>
    obtain ⟨hnot, hrest⟩ := List.nodup_cons.1 hn
    obtain ⟨hown, hthere⟩ := hf name List.mem_cons_self
    obtain ⟨between, hunlink, hup⟩ := h.answer_unlink hown hthere
    have hne : ∀ other ∈ names, other ≠ name := fun other hm he => hnot (he ▸ hm)
    obtain ⟨after, hrun, hkeeps, hgone, hothers⟩ := ih hup.keeps hrest fun other hm => by
      rw [hup.others other (hne other hm)]
      exact hf other (List.mem_cons_of_mem name hm)
    refine ⟨after, ?_, hkeeps, fun other hm => ?_, fun other hm => ?_⟩
    · rw [unlinkAll, Disk.run_bind, Disk.run_unlink, hunlink]
      exact hrun
    · rcases List.mem_cons.1 hm with rfl | hm
      · rw [hothers other hnot, hup.content]
      · exact hgone other hm
    · rw [List.mem_cons, not_or] at hm
      rw [hothers other hm.2, hup.others other hm.1]

/-- Clearing removes every file of the cache and leaves an empty index. -/
theorem Indexes.run_clear (h : Indexes disk folder records)
    (ht : disk.IsTidy folder IsOwnName isCacheFile) :
    Indexes (Disk.run clear disk).2 folder [] ∧
      (Disk.run clear disk).2.IsTidy folder IsOwnName isCacheFile ∧
      ∀ key, (Disk.run clear disk).2.content? folder (fileName (fileKey key)) = none := by
  obtain ⟨found, hnames, hnodup, hmem⟩ := h.keeps.answer_names ht
  obtain ⟨between, hunlink, hkeeps, hgone, hothers⟩ := run_unlinkAll h.keeps hnodup
    fun name hm => ((hmem name).1 hm).2
  have htidy := h.keeps.run_isTidy ht (unlinkAll_asks fun name hm => ((hmem name).1 hm).2.1)
  rw [hunlink] at htidy
  obtain ⟨after, hsave, hindexes, hsame⟩ := run_saveIndex hkeeps isIndex_nil
  have htidy' := hkeeps.run_isTidy htidy.2 (saveIndex_asks (.object []))
  rw [hsave] at htidy'
  have hrun : Disk.run clear disk = ((), after) := by
    have hlist : Disk.run DiskPlan.names disk = (.ok found, disk) := hnames
    rw [clear, Disk.run_bind, hlist]
    simp only [Disk.run_bind, hunlink, if_true, hsave]
  rw [hrun]
  refine ⟨hindexes, htidy'.2, fun key => ?_⟩
  rw [hsame _ (fileName_ne_indexName key)]
  by_cases hm : fileName (fileKey key) ∈ found.filter isCacheFile
  · exact hgone _ hm
  · rw [hothers _ hm, ← Option.not_isSome_iff_eq_none]
    intro hthere
    exact hm ((hmem _).2 ⟨(isOwnName_file key).isCacheFile, isOwnName_file key, hthere⟩)

/-- Opening the cache again leaves what is in its folder, and may write an index that is missing. -/
theorem Indexes.run_prepare_isSame (h : Indexes disk folder records) (key : Text) :
    IsSame folder disk records (Disk.run prepare disk).2 records key := by
  refine ⟨?_, rfl⟩
  rw [prepare, Disk.run_bind, Disk.run_exists, h.keeps.answer_exists isOwnName_index]
  cases hc : disk.content? folder indexName with
  | some content => rfl
  | none =>
    obtain ⟨after, hsave, -, hothers⟩ := run_saveIndex h.keeps isIndex_nil
    simp only [Option.isSome_none, Bool.false_eq_true, if_false, hsave]
    exact hothers _ (fileName_ne_indexName key)

theorem run_loadEntry_of_content (h : disk.Keeps folder IsOwnName) {e : Entry}
    (hfile : disk.content? folder (fileName (fileKey key)) = some (entryText e))
    (hread : Json.read (entryText e) = .ok e.toJson) :
    Disk.run (loadEntry (fileKey key)) disk = (.ok (some e.toJson), disk) := by
  rw [loadEntry, Disk.run_bind, Disk.run_read, h.answer_read (isOwnName_file key), hfile]
  simp only [hread]
  rfl

/-- A look-up where the file and the record of a live outcome are there. -/
theorem Indexes.run_get_live (h : Indexes disk folder records) {ttl : Span} {now : Instant}
    {e : Entry} {k : Text} (hfile : disk.content? folder (fileName (fileKey key)) = some (entryText e))
    (hrecord : records.lookup (fileKey key) = some (indexRecord k e))
    (hread : Json.read (entryText e) = .ok e.toJson)
    (hlive : isExpired ttl now (.text e.time) = false) :
    Disk.run (get ttl now key) disk = (.ok (some e.toJson), disk) := by
  have htime : (indexRecord k e).item "cached_at" = .ok (.text e.time) := rfl
  rw [get]
  simp only [Disk.run_bind, Disk.run_exists, h.keeps.answer_exists (isOwnName_file key), hfile,
    Option.isSome_some, if_true, h.run_loadIndex, findRecord_object, hrecord, htime, hlive,
    Bool.false_eq_true, if_false]
  exact run_loadEntry_of_content h.keeps hfile hread

end QueryFence.FileCache
