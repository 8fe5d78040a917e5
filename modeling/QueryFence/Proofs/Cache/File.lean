import QueryFence.Proofs.Cache.Names
import QueryFence.Proofs.Calendar.Iso
import QueryFence.Proofs.Json.RoundTrip

/-!
The cache in a folder: as long as nobody else writes there, its index can be read, deleting leaves
nothing under a key, and storing leaves the outcome in its file and a record in the index.
-/

namespace QueryFence.FileCache

/-- An index in which every record is one that the cache wrote. -/
structure IsIndex (records : List (Text × Json)) : Prop where
  keys : Assoc.HasDistinctKeys records
  records : ∀ fileKey record, (fileKey, record) ∈ records →
    ∃ key e, record = indexRecord key e

/-- A folder that the cache keeps, with what the index in it says. -/
structure Indexes (disk : Disk) (folder : Path) (records : List (Text × Json)) : Prop where
  keeps : disk.Keeps folder IsOwnName
  index : IsIndex records
  content : disk.content? folder indexName = some (Json.object records).writeIndented ∨
    (disk.content? folder indexName = none ∧ records = [])

theorem isIndex_nil : IsIndex [] := ⟨List.nodup_nil, fun _ _ h => absurd h List.not_mem_nil⟩

theorem IsIndex.put {records : List (Text × Json)} (h : IsIndex records) (fileKey key : Text)
    (e : Entry) : IsIndex (Assoc.put fileKey (indexRecord key e) records) := by
  refine ⟨h.keys.put, fun k record hm => ?_⟩
  rcases Assoc.mem_of_mem_put h.keys hm with ⟨-, rfl⟩ | ⟨-, hold⟩
  · exact ⟨key, e, rfl⟩
  · exact h.records k record hold

theorem IsIndex.erase {records : List (Text × Json)} (h : IsIndex records) (fileKey : Text) :
    IsIndex (Assoc.erase fileKey records) :=
  ⟨h.keys.sublist (Assoc.erase_sublist _ _), fun k record hm =>
    h.records k record ((Assoc.erase_sublist _ _).subset hm)⟩

theorem isExact_indexRecord (key : Text) (e : Entry) : (indexRecord key e).IsExact := by
  have hkeys : [("key" : Text), "cached_at", "is_error"].Nodup := by decide
  exact ⟨hkeys, trivial, trivial, trivial, trivial⟩

theorem IsIndex.isExact {records : List (Text × Json)} (h : IsIndex records) :
    (Json.object records).IsExact := by
  refine ⟨h.keys, Json.membersExact_iff.2 fun member hm => ?_⟩
  obtain ⟨key, e, he⟩ := h.records member.1 member.2 hm
  rw [he]
  exact isExact_indexRecord key e

/-- Everything but the index and the file of one key is as it was. -/
def IsUntouched (folder : Path) (fileKey : Text) (disk after : Disk) : Prop :=
  ∀ name, name ≠ indexName → name ≠ fileName fileKey →
    after.content? folder name = disk.content? folder name

/-- A folder of the cache, whatever its files hold, with the records that are read from the index: those
of an object that is written exactly, or none. -/
structure Opens (disk : Disk) (folder : Path) (records : List (Text × Json)) : Prop where
  keeps : disk.Keeps folder IsOwnName
  exact : (Json.object records).IsExact
  loads : Disk.run loadIndex disk = (.ok (.object records), disk)

/-- The index has been written with some records, or it is as it was and so are they. -/
def IsSaved (folder : Path) (disk : Disk) (records : List (Text × Json)) (after : Disk)
    (records' : List (Text × Json)) : Prop :=
  after.content? folder indexName = some (Json.object records').writeIndented ∨
    (after.content? folder indexName = disk.content? folder indexName ∧ records' = records)

section Plans

variable {disk after : Disk} {folder : Path} {records records' : List (Text × Json)}

theorem Opens.erase_isExact (h : Opens disk folder records) (fileKey : Text) :
    (Json.object (Assoc.erase fileKey records)).IsExact :=
  h.exact.sublist (Assoc.erase_sublist fileKey records)

theorem Opens.put_isExact (h : Opens disk folder records) (fileKey key : Text) (e : Entry) :
    (Json.object (Assoc.put fileKey (indexRecord key e) records)).IsExact :=
  h.exact.put fileKey (isExact_indexRecord key e)

theorem run_loadIndex_of_content (h : disk.Keeps folder IsOwnName)
    (hx : (Json.object records).IsExact)
    (hc : disk.content? folder indexName = some (Json.object records).writeIndented) :
    Disk.run loadIndex disk = (.ok (.object records), disk) := by
  rw [loadIndex, Disk.run_bind, Disk.run_read, h.answer_read isOwnName_index]
  simp only [hc, Json.read_writeIndented hx]
  rfl

/-- Writing the index makes its records those that are read. -/
theorem Opens.run_saveIndex (h : disk.Keeps folder IsOwnName)
    (hx : (Json.object records).IsExact) :
    ∃ after, Disk.run (saveIndex (.object records)) disk = ((), after) ∧
      Opens after folder records ∧
      after.content? folder indexName = some (Json.object records).writeIndented ∧
      ∀ name, name ≠ indexName → after.content? folder name = disk.content? folder name := by
  obtain ⟨after, hwrite, hup⟩ :=
    h.answer_write isOwnName_index (Json.object records).writeIndented
  refine ⟨after, ?_, ⟨hup.keeps, hx, run_loadIndex_of_content hup.keeps hx hup.content⟩,
    hup.content, hup.others⟩
  rw [saveIndex, Disk.run_bind, Disk.run_write, hwrite]
  rfl

theorem Opens.of_same_index (h : Opens disk folder records) (hk : after.Keeps folder IsOwnName)
    (hc : after.content? folder indexName = disk.content? folder indexName) :
    Opens after folder records := by
  refine ⟨hk, h.exact, ?_⟩
  have hload := h.loads
  rw [loadIndex, Disk.run_bind, Disk.run_read, h.keeps.answer_read isOwnName_index] at hload
  rw [loadIndex, Disk.run_bind, Disk.run_read, hk.answer_read isOwnName_index, hc]
  have hfst := congrArg Prod.fst hload
  cases hcontent : disk.content? folder indexName with
  | none =>
    rw [hcontent] at hfst
    exact Prod.ext hfst rfl
  | some content =>
    rw [hcontent] at hfst
    dsimp only at hfst ⊢
    split at hfst
    · exact Prod.ext hfst rfl
    · exact Prod.ext hfst rfl
    · cases hfst

theorem Opens.run_removeRecord (h : Opens disk folder records) (fileKey : Text) :
    ∃ after, Disk.run (removeRecord fileKey) disk = (.ok (), after) ∧
      Opens after folder (Assoc.erase fileKey records) ∧
      IsSaved folder disk records after (Assoc.erase fileKey records) ∧
      ∀ name, name ≠ indexName → after.content? folder name = disk.content? folder name := by
  have hcontains : (Json.object records).contains fileKey =
      .ok (records.lookup fileKey).isSome := rfl
  rw [removeRecord, Disk.run_bind, h.loads]
  simp only [hcontains]
  cases hfind : records.lookup fileKey with
  | none =>
    rw [Assoc.erase_eq_self hfind]
    exact ⟨disk, rfl, h, .inr ⟨rfl, rfl⟩, fun _ _ => rfl⟩
  | some record =>
    obtain ⟨after, hsave, hopens, hcontent, hothers⟩ :=
      Opens.run_saveIndex h.keeps (h.erase_isExact fileKey)
    refine ⟨after, ?_, hopens, .inl hcontent, hothers⟩
    simp only [Option.isSome_some, dropRecord, Disk.run_bind, hsave]
    rfl

/-- Removing an outcome takes its file and its record, and nothing else. -/
theorem Opens.run_removeEntry (h : Opens disk folder records) (key : Text) :
    ∃ after, Disk.run (removeEntry (fileKey key)) disk = (.ok (), after) ∧
      Opens after folder (Assoc.erase (fileKey key) records) ∧
      IsSaved folder disk records after (Assoc.erase (fileKey key) records) ∧
      after.content? folder (fileName (fileKey key)) = none ∧
      IsUntouched folder (fileKey key) disk after := by
  have hown := isOwnName_file key
  rw [removeEntry, Disk.run_bind, Disk.run_exists, h.keeps.answer_exists hown]
  cases hfile : disk.content? folder (fileName (fileKey key)) with
  | none =>
    obtain ⟨after, hrun, hopens, hsaved, hothers⟩ := h.run_removeRecord (fileKey key)
    refine ⟨after, ?_, hopens, hsaved, ?_, fun name hi _ => hothers name hi⟩
    · simp only [Option.isSome_none, Bool.false_eq_true, if_false, hrun]
    · rw [hothers _ (fileName_ne_indexName key), hfile]
  | some content =>
    obtain ⟨between, hunlink, hup⟩ := h.keeps.answer_unlink hown (by rw [hfile]; rfl)
    have hindex := hup.others _ (Ne.symm (fileName_ne_indexName key))
    obtain ⟨after, hrun, hopens, hsaved, hothers⟩ :=
      (h.of_same_index hup.keeps hindex).run_removeRecord (fileKey key)
    rw [IsSaved, hindex] at hsaved
    refine ⟨after, ?_, hopens, hsaved, ?_, fun name hi hn => ?_⟩
    · simp only [Option.isSome_some, if_true, Disk.run_bind, Disk.run_unlink, hunlink, hrun]
    · rw [hothers _ (fileName_ne_indexName key), hup.content]
    · rw [hothers name hi, hup.others name hn]

/-- Storing an outcome writes its file and its record, and nothing else. -/
theorem Opens.run_add (h : Opens disk folder records) (now : Instant) (key : Text) (data : Json)
    (isError : Bool) :
    ∃ after, Disk.run (add now key data isError) disk = (Entry.at now data isError, after) ∧
      Opens after folder
        (Assoc.put (fileKey key) (indexRecord key (Entry.at now data isError)) records) ∧
      after.content? folder indexName = some (Json.object
        (Assoc.put (fileKey key) (indexRecord key (Entry.at now data isError)) records)).writeIndented ∧
      after.content? folder (fileName (fileKey key)) =
        some (entryText (Entry.at now data isError)) ∧
      IsUntouched folder (fileKey key) disk after := by
  have hown := isOwnName_file key
  obtain ⟨between, hwrite, hup⟩ :=
    h.keeps.answer_write hown (entryText (Entry.at now data isError))
  have hindex := hup.others _ (Ne.symm (fileName_ne_indexName key))
  have hbetween := h.of_same_index hup.keeps hindex
  obtain ⟨after, hsave, hopens, hcontent, hothers⟩ := Opens.run_saveIndex hbetween.keeps
    (h.put_isExact (fileKey key) key (Entry.at now data isError))
  refine ⟨after, ?_, hopens, hcontent, ?_, fun name hi hn => ?_⟩
  · rw [add, Disk.run_bind, Disk.run_write, hwrite]
    simp only [Disk.run_bind, hbetween.loads, putRecord, hsave]
    rfl
  · rw [hothers _ (fileName_ne_indexName key), hup.content]
  · rw [hothers name hi, hup.others name hn]

theorem Indexes.opens (h : Indexes disk folder records) : Opens disk folder records := by
  refine ⟨h.keeps, h.index.isExact, ?_⟩
  rcases h.content with hc | ⟨hc, rfl⟩
  · exact run_loadIndex_of_content h.keeps h.index.isExact hc
  · rw [loadIndex, Disk.run_bind, Disk.run_read, h.keeps.answer_read isOwnName_index, hc]
    rfl

theorem Indexes.run_loadIndex (h : Indexes disk folder records) :
    Disk.run loadIndex disk = (.ok (.object records), disk) := h.opens.loads

/-- An index of the cache's own records stays one where it is saved with such records. -/
theorem Indexes.of_isSaved (h : Indexes disk folder records) (ho : Opens after folder records')
    (hi : IsIndex records') (hs : IsSaved folder disk records after records') :
    Indexes after folder records' := by
  refine ⟨ho.keeps, hi, ?_⟩
  rcases hs with hs | ⟨hsame, rfl⟩
  · exact .inl hs
  · rw [hsame]
    exact h.content

theorem run_saveIndex (h : disk.Keeps folder IsOwnName) (hi : IsIndex records) :
    ∃ after, Disk.run (saveIndex (.object records)) disk = ((), after) ∧
      Indexes after folder records ∧
      ∀ name, name ≠ indexName → after.content? folder name = disk.content? folder name := by
  obtain ⟨after, hrun, hopens, hcontent, hothers⟩ := Opens.run_saveIndex h hi.isExact
  exact ⟨after, hrun, ⟨hopens.keeps, hi, .inl hcontent⟩, hothers⟩

theorem Indexes.run_removeEntry (h : Indexes disk folder records) (key : Text) :
    ∃ after, Disk.run (removeEntry (fileKey key)) disk = (.ok (), after) ∧
      Indexes after folder (Assoc.erase (fileKey key) records) ∧
      after.content? folder (fileName (fileKey key)) = none ∧
      IsUntouched folder (fileKey key) disk after := by
  obtain ⟨after, hrun, hopens, hsaved, hgone, hothers⟩ := h.opens.run_removeEntry key
  exact ⟨after, hrun, h.of_isSaved hopens (h.index.erase _) hsaved, hgone, hothers⟩

theorem Indexes.run_add (h : Indexes disk folder records) (now : Instant) (key : Text) (data : Json)
    (isError : Bool) :
    ∃ after, Disk.run (add now key data isError) disk = (Entry.at now data isError, after) ∧
      Indexes after folder
        (Assoc.put (fileKey key) (indexRecord key (Entry.at now data isError)) records) ∧
      after.content? folder (fileName (fileKey key)) =
        some (entryText (Entry.at now data isError)) ∧
      IsUntouched folder (fileKey key) disk after := by
  obtain ⟨after, hrun, hopens, hcontent, hfile, hothers⟩ := h.opens.run_add now key data isError
  exact ⟨after, hrun, h.of_isSaved hopens (h.index.put _ key _) (.inl hcontent), hfile, hothers⟩

theorem Indexes.run_loadEntry (h : Indexes disk folder records) (key : Text) :
    ∃ r, Disk.run (loadEntry (fileKey key)) disk = (r, disk) := by
  rw [loadEntry, Disk.run_bind, Disk.run_read, h.keeps.answer_read (isOwnName_file key)]
  cases disk.content? folder (fileName (fileKey key)) with
  | none => exact ⟨_, rfl⟩
  | some content =>
    simp only
    split <;> exact ⟨_, rfl⟩

theorem run_get_missing (h : disk.Keeps folder IsOwnName) (ttl : Span) (now : Instant)
    {key : Text} (hfile : disk.content? folder (fileName (fileKey key)) = none) :
    Disk.run (get ttl now key) disk = (.ok none, disk) := by
  rw [get]
  simp only [Disk.run_bind, Disk.run_exists, h.answer_exists (isOwnName_file key), hfile]
  rfl

theorem indexRecord_time_inj {k k' : Text} {e e' : Entry}
    (h : indexRecord k e = indexRecord k' e') : k = k' ∧ e.time = e'.time := by
  simp only [indexRecord, Json.object.injEq, List.cons.injEq, Prod.mk.injEq, Json.text.injEq,
    true_and] at h
  exact ⟨h.1, h.2.1⟩

theorem findRecord_object (records : List (Text × Json)) (fileKey : Text) :
    findRecord (.object records) fileKey = .ok (records.lookup fileKey) := by
  have hcontains : (Json.object records).contains fileKey =
      .ok (records.lookup fileKey).isSome := rfl
  cases hrecord : records.lookup fileKey with
  | none =>
    rw [findRecord, hcontains, hrecord]
    rfl
  | some record =>
    have hitem : (Json.object records).item fileKey = .ok record := by
      rw [Json.item, hrecord]
    rw [findRecord, hcontains, hrecord, hitem]
    rfl

/-- The outcome under a key has its file and its record, but the record tells that it has expired. -/
def HasExpired (ttl : Span) (now : Instant) (disk : Disk) (folder : Path)
    (records : List (Text × Json)) (key : Text) : Prop :=
  (disk.content? folder (fileName (fileKey key))).isSome = true ∧
    ∃ k e, records.lookup (fileKey key) = some (indexRecord k e) ∧
      isExpired ttl now (.text e.time) = true

/-- A look-up leaves the folder as it is, or removes the outcome that was looked for because it has
expired. -/
theorem Indexes.run_get (h : Indexes disk folder records) (ttl : Span) (now : Instant)
    (key : Text) :
    (¬ HasExpired ttl now disk folder records key ∧
      ∃ r, Disk.run (get ttl now key) disk = (r, disk)) ∨
    (HasExpired ttl now disk folder records key ∧
      ∃ after, Disk.run (get ttl now key) disk = (.ok none, after) ∧
        Indexes after folder (Assoc.erase (fileKey key) records) ∧
        after.content? folder (fileName (fileKey key)) = none ∧
        IsUntouched folder (fileKey key) disk after) := by
  cases hfile : disk.content? folder (fileName (fileKey key)) with
  | none =>
    refine .inl ⟨fun hexp => ?_, _, run_get_missing h.keeps ttl now hfile⟩
    rw [HasExpired, hfile] at hexp
    exact Bool.noConfusion hexp.1
  | some content =>
    have hthere : (disk.content? folder (fileName (fileKey key))).isSome = true := by
      rw [hfile]
      rfl
    rw [get]
    simp only [Disk.run_bind, Disk.run_exists, h.keeps.answer_exists (isOwnName_file key), hthere,
      if_true, h.run_loadIndex, findRecord_object]
    cases hrecord : records.lookup (fileKey key) with
    | none =>
      refine .inl ⟨fun hexp => ?_, _, rfl⟩
      obtain ⟨-, k, e, hfound, -⟩ := hexp
      cases hrecord.symm.trans hfound
    | some record =>
      obtain ⟨k, e, rfl⟩ := h.index.records _ _ (Assoc.mem_of_lookup_eq_some hrecord)
      have htime : (indexRecord k e).item "cached_at" = .ok (.text e.time) := rfl
      simp only [htime]
      cases hexp : isExpired ttl now (.text e.time) with
      | false =>
        obtain ⟨r, hload⟩ := h.run_loadEntry key
        refine .inl ⟨fun hexp' => ?_, r, hload⟩
        obtain ⟨-, k', e', hfound, hexp'⟩ := hexp'
        obtain ⟨-, he⟩ := indexRecord_time_inj (Option.some.inj (hrecord.symm.trans hfound))
        rw [← he, hexp] at hexp'
        exact Bool.noConfusion hexp'
      | true =>
        obtain ⟨after, hremove, hindexes, hgone, hothers⟩ := h.run_removeEntry key
        refine .inr ⟨⟨hthere, k, e, hrecord, hexp⟩, after, ?_, hindexes, hgone, hothers⟩
        simp only [if_true, Disk.run_bind, hremove]
        rfl

end Plans

/-- A cache whose folder nobody else has written to. -/
def IsSound (c : FileCache) : Prop := ∃ folder records, Indexes c.disk folder records

/-- The file of a key holds an outcome, and the index has a record of it. -/
def Contains (c : FileCache) (key : Text) (e : Entry) : Prop :=
  (c.perform (DiskPlan.read (fileName (fileKey key)))).1 = .ok (entryText e) ∧
    ∃ records, (c.perform loadIndex).1 = .ok (.object records) ∧
      records.lookup (fileKey key) = some (indexRecord key e)

/-- There is no file for a key. -/
def Misses (c : FileCache) (key : Text) : Prop :=
  (c.perform (DiskPlan.read (fileName (fileKey key)))).1 = .error .missing

section Cache

variable {c : FileCache} {folder : Path} {records : List (Text × Json)} {key : Text}

theorem perform_eq {α : Type} {p : DiskPlan α} {a : α} {after : Disk}
    (h : Disk.run p c.disk = (a, after)) : c.perform p = (a, { c with disk := after }) := by
  rw [perform, h]

theorem Indexes.contains_iff (h : Indexes c.disk folder records) {e : Entry} :
    c.Contains key e ↔ c.disk.content? folder (fileName (fileKey key)) = some (entryText e) ∧
      records.lookup (fileKey key) = some (indexRecord key e) := by
  rw [Contains, perform_eq h.run_loadIndex, perform, Disk.run_read,
    h.keeps.answer_read (isOwnName_file key)]
  constructor
  · rintro ⟨hread, records', hindex, hlookup⟩
    cases hindex
    refine ⟨?_, hlookup⟩
    cases hfile : c.disk.content? folder (fileName (fileKey key)) with
    | none =>
      rw [hfile] at hread
      cases hread
    | some content =>
      rw [hfile] at hread
      rw [Except.ok.inj hread]
  · rintro ⟨hfile, hlookup⟩
    exact ⟨by rw [hfile], records, rfl, hlookup⟩

theorem Indexes.misses_iff (h : Indexes c.disk folder records) :
    c.Misses key ↔ c.disk.content? folder (fileName (fileKey key)) = none := by
  rw [Misses, perform, Disk.run_read, h.keeps.answer_read (isOwnName_file key)]
  cases c.disk.content? folder (fileName (fileKey key)) <;> simp

theorem IsSound.result_delete (h : c.IsSound) (key : Text) :
    ∃ after : FileCache, ResultCache.delete c key = (.ok (), after) ∧ after.ttl = c.ttl ∧
      after.IsSound ∧ after.Misses key := by
  obtain ⟨folder, records, hi⟩ := h
  obtain ⟨after, hrun, hindexes, hgone, -⟩ := hi.run_removeEntry key
  have hafter : Indexes ({ c with disk := after } : FileCache).disk folder _ := hindexes
  exact ⟨{ c with disk := after }, perform_eq hrun, rfl, ⟨folder, _, hindexes⟩,
    hafter.misses_iff.2 hgone⟩

theorem IsSound.result_get_of_misses (h : c.IsSound) (hm : c.Misses key) (now : Instant) :
    ResultCache.get c now key = (.ok none, c) := by
  obtain ⟨folder, records, hi⟩ := h
  exact perform_eq (run_get_missing hi.keeps c.ttl now (hi.misses_iff.1 hm))

theorem IsSound.result_add (h : c.IsSound) (now : Instant) (key : Text) (data : Json)
    (isError : Bool) :
    ∃ after : FileCache, ResultCache.add c now key data isError =
        (.ok (Entry.at now data isError).toJson, after) ∧ after.ttl = c.ttl ∧
      after.IsSound ∧ after.Contains key (Entry.at now data isError) := by
  obtain ⟨folder, records, hi⟩ := h
  obtain ⟨after, hrun, hindexes, hfile, -⟩ := hi.run_add now key data isError
  have hafter : Indexes ({ c with disk := after } : FileCache).disk folder _ := hindexes
  refine ⟨{ c with disk := after }, ?_, rfl, ⟨folder, _, hindexes⟩, hafter.contains_iff.2
    ⟨hfile, Assoc.lookup_put_self _ _ _⟩⟩
  have hperform := perform_eq (c := c) hrun
  simp only [ResultCache.add, hperform]

/-- A look-up removes nothing but an outcome that has expired. -/
theorem IsSound.result_get (h : c.IsSound) (now : Instant) (key : Text) :
    ((ResultCache.get c now key).2 = c ∧ ∀ e, c.Contains key e →
      isExpired c.ttl now (.text e.time) = false) ∨
    ((ResultCache.get c now key).2.ttl = c.ttl ∧ (ResultCache.get c now key).2.IsSound ∧
      (ResultCache.get c now key).2.Misses key ∧ ∀ e, c.Contains key e →
      isExpired c.ttl now (.text e.time) = true) := by
  obtain ⟨folder, records, hi⟩ := h
  rcases hi.run_get c.ttl now key with ⟨hlive, r, hrun⟩ | ⟨hexp, after, hrun, hindexes, hgone, -⟩
  · left
    refine ⟨congrArg Prod.snd (perform_eq hrun), fun e he => ?_⟩
    obtain ⟨hfile, hlookup⟩ := hi.contains_iff.1 he
    refine Bool.eq_false_iff.2 fun hexp => hlive ⟨?_, key, e, hlookup, hexp⟩
    rw [hfile]
    rfl
  · right
    have hafter : Indexes ({ c with disk := after } : FileCache).disk folder _ := hindexes
    have hperform : ResultCache.get c now key = _ := perform_eq (c := c) hrun
    rw [hperform]
    refine ⟨rfl, ⟨folder, _, hindexes⟩, hafter.misses_iff.2 hgone, fun e he => ?_⟩
    obtain ⟨-, hlookup⟩ := hi.contains_iff.1 he
    obtain ⟨-, k, e', hfound, htime⟩ := hexp
    rw [(indexRecord_time_inj (Option.some.inj (hlookup.symm.trans hfound))).2]
    exact htime

end Cache

end QueryFence.FileCache
