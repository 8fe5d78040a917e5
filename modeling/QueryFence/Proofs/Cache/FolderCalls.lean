import QueryFence.Proofs.Cache.Folder

/-!
The cache in a folder, call by call: each leaves the file and the record of a key as the deposit there
should have them, unless that has expired, and a look-up gives the deposit while it is live.
-/

namespace QueryFence.FileCache

instance : CacheUpkeep FileCache where
  cleanup c now := (c.perform (cleanup c.ttl now)).2
  clear c := (c.perform clear).2
  reopen c := (attach c.ttl c.disk).2

/-- A folder in which only the cache keeps files of its kind, with what its index says. -/
structure IsKept (disk : Disk) (folder : Path) (records : List (Text × Json)) : Prop extends
    Indexes disk folder records where
  tidy : disk.IsTidy folder IsOwnName isCacheFile
  recordKeys : ∀ k ∈ records.map Prod.fst, IsFileKey k

/-- The file and the record of a key are those of a deposit that can be read back, or there is no
file. -/
structure Stores (disk : Disk) (folder : Path) (records : List (Text × Json)) (key : Text)
    (d : Option Deposit) : Prop where
  content : disk.content? folder (fileName (fileKey key)) = d.map (entryText ·.entry)
  record : ∀ e ∈ d, records.lookup (fileKey key) = some (indexRecord key e.entry)
  told : ∀ e ∈ d, e.time.IsTold
  read_back : ∀ e ∈ d, Json.read (entryText e.entry) = .ok e.entry.toJson

variable {disk after : Disk} {folder : Path} {records records' : List (Text × Json)} {key : Text}
  {ttl : Span} {now : Instant} {d : Option Deposit}

theorem stores_none (h : disk.content? folder (fileName (fileKey key)) = none) :
    Stores disk folder records key none := ⟨h, nofun, nofun, nofun⟩

theorem Stores.of_isSame (h : Stores disk folder records key d)
    (hs : IsSame folder disk records after records' key) : Stores after folder records' key d :=
  ⟨hs.content.trans h.content, fun e he => hs.record.trans (h.record e he), h.told, h.read_back⟩

theorem isExpired_deposit {e : Deposit} (he : e.time.IsTold) (ttl : Span) (now : Instant) :
    isExpired ttl now (.text e.entry.time) = !e.isLive ttl now := by
  have htime : e.entry.time = e.time.isoText := rfl
  rw [htime]
  simp only [isExpired, Iso.read_isoText he, Deposit.isLive, ← decide_not, Int.not_le]

/-- What is removed because its record tells that its time is over has expired. -/
theorem Stores.not_live_of_expired (h : Stores disk folder records key d) {k : Text} {e' : Entry}
    (hr : records.lookup (fileKey key) = some (indexRecord k e'))
    (hexp : isExpired ttl now (.text e'.time) = true) : ∀ e ∈ d, e.isLive ttl now = false := by
  intro e he
  have hsame := (h.record e he).symm.trans hr
  rw [← (indexRecord_time_inj (Option.some.inj hsame)).2, isExpired_deposit (h.told e he) ttl now] at hexp
  exact Bool.not_eq_true' _ ▸ hexp

/-- Outcomes are read back as they were written. -/
theorem read_entryText {e : Entry} (h : e.data.IsExact) :
    Json.read (entryText e) = .ok e.toJson := by
  have hkeys : [("data" : Text), "is_error", "time"].Nodup := by decide
  exact Json.read_writeIndented ⟨hkeys, h, trivial, trivial, trivial⟩

/-- Where only outcomes under other keys were removed, or what has expired, a deposit stays while it is
live. -/
theorem Stores.of_isWithout (h : Stores disk folder records key d) {removed : Text → Prop}
    (hw : IsWithout folder disk records after removed records')
    (hdead : removed (fileKey key) → ∀ e ∈ d, e.isLive ttl now = false) :
    HoldsLive ttl (Stores after folder records' key) now d := by
  by_cases hr : removed (fileKey key)
  · have hnone : Stores after folder records' key none := stores_none (hw.gone key hr)
    cases d with
    | none => exact .inl hnone
    | some e => exact .inr ⟨hnone, e, rfl, hdead hr e rfl⟩
  · exact .inl (h.of_isSame (hw.others key hr))

theorem IsKept.of_run (h : IsKept disk folder records) {α : Type} {p : DiskPlan α}
    (hp : p.Asks IsOwnAction) {a : α} (hrun : Disk.run p disk = (a, after))
    (hi : Indexes after folder records') (hk : ∀ k ∈ records'.map Prod.fst, IsFileKey k) :
    IsKept after folder records' := by
  have htidy := (h.keeps.run_isTidy h.tidy hp).2
  rw [hrun] at htidy
  exact ⟨hi, htidy, hk⟩

theorem IsKept.recordKeys_of_sublist (h : IsKept disk folder records)
    (hs : records'.Sublist records) : ∀ k ∈ records'.map Prod.fst, IsFileKey k :=
  fun k hk => h.recordKeys k ((hs.map Prod.fst).subset hk)

theorem IsKept.run_add (h : IsKept disk folder records) (now : Instant) (other : Text) (data : Json)
    (isError : Bool) :
    ∃ after, Disk.run (add now other data isError) disk = (Entry.at now data isError, after) ∧
      IsKept after folder
        (Assoc.put (fileKey other) (indexRecord other (Entry.at now data isError)) records) ∧
      after.content? folder (fileName (fileKey other)) =
        some (entryText (Entry.at now data isError)) ∧
      IsUntouched folder (fileKey other) disk after := by
  obtain ⟨after, hrun, hindexes, hfile, hothers⟩ := h.toIndexes.run_add now other data isError
  have hkeys : ∀ k ∈ (Assoc.put (fileKey other)
      (indexRecord other (Entry.at now data isError)) records).map Prod.fst, IsFileKey k := by
    intro k hk
    obtain ⟨⟨k, record⟩, hm, rfl⟩ := List.mem_map.1 hk
    rcases Assoc.mem_of_mem_put h.index.keys hm with ⟨rfl, -⟩ | ⟨-, hm⟩
    · exact ⟨other, rfl⟩
    · exact h.recordKeys k (Assoc.mem_keys hm)
  exact ⟨after, hrun, h.of_run (add_asks now other data isError) hrun hindexes hkeys, hfile,
    hothers⟩

/-- Adding leaves a deposit under its own key, and what was there under others. -/
theorem IsKept.run_add_stores (h : IsKept disk folder records) (hnow : now.IsTold) (other : Text)
    {data : Json} {isError : Bool}
    (hread : Json.read (entryText (Entry.at now data isError)) =
      .ok (Entry.at now data isError).toJson) :
    ∃ after records', Disk.run (add now other data isError) disk =
        (Entry.at now data isError, after) ∧ IsKept after folder records' ∧
      Stores after folder records' other (some ⟨data, isError, now⟩) ∧
      ∀ key d, fileKey key ≠ fileKey other → Stores disk folder records key d →
        Stores after folder records' key d := by
  obtain ⟨after, hrun, hkept, hfile, hothers⟩ := h.run_add now other data isError
  refine ⟨after, _, hrun, hkept, ⟨hfile, ?_, ?_, ?_⟩, fun key d hne hd => ?_⟩
  · rintro _ ⟨⟩
    exact Assoc.lookup_put_self _ _ _
  · rintro _ ⟨⟩
    exact hnow
  · rintro _ ⟨⟩
    exact hread
  · exact hd.of_isSame (hothers.isSame (Assoc.lookup_put_of_ne hne _ _) hne)

theorem IsKept.run_get_stores (h : IsKept disk folder records) (ttl : Span) (now : Instant)
    (other : Text) :
    ∃ records', IsKept (Disk.run (get ttl now other) disk).2 folder records' ∧
      ∀ key d, Stores disk folder records key d →
        HoldsLive ttl (Stores (Disk.run (get ttl now other) disk).2 folder records' key) now d := by
  rcases h.run_get ttl now other with ⟨-, r, hrun⟩ | ⟨hexp, after, hrun, hindexes, hgone, hothers⟩
  · rw [hrun]
    exact ⟨records, h, fun key d hd => .inl hd⟩
  · have hw := isWithout_erase hindexes hgone hothers
    have hkept := h.of_run (get_asks ttl now other) hrun hindexes (h.recordKeys_of_sublist hw.rest)
    rw [hrun]
    refine ⟨_, hkept, fun key d hd => hd.of_isWithout hw fun hk => ?_⟩
    obtain ⟨-, k, e, hfound, hover⟩ := hexp
    rw [← hk] at hfound
    exact hd.not_live_of_expired hfound hover

theorem IsKept.run_delete_stores (h : IsKept disk folder records) (other : Text) :
    ∃ after records', Disk.run (delete other) disk = (.ok (), after) ∧
      IsKept after folder records' ∧ Stores after folder records' other none ∧
      ∀ key d, fileKey key ≠ fileKey other → Stores disk folder records key d →
        Stores after folder records' key d := by
  obtain ⟨after, hrun, hindexes, hgone, hothers⟩ := h.run_removeEntry other
  have hw := isWithout_erase hindexes hgone hothers
  exact ⟨after, _, hrun, h.of_run (removeEntry_asks other) hrun hindexes
    (h.recordKeys_of_sublist hw.rest), stores_none hgone,
    fun key d hne hd => hd.of_isSame (hw.others key hne)⟩

theorem IsKept.run_cleanup_stores (h : IsKept disk folder records) (ttl : Span) (now : Instant) :
    ∃ records', IsKept (Disk.run (cleanup ttl now) disk).2 folder records' ∧
      ∀ key d, Stores disk folder records key d →
        HoldsLive ttl (Stores (Disk.run (cleanup ttl now) disk).2 folder records' key) now d := by
  obtain ⟨after, hrun, htidy, hw⟩ := h.run_cleanup h.tidy h.recordKeys ttl now
  rw [hrun]
  refine ⟨_, ⟨hw.indexes, htidy, h.recordKeys_of_sublist hw.rest⟩, fun key d hd =>
    hd.of_isWithout hw ?_⟩
  rintro ⟨k, e, hm, hexp⟩
  exact hd.not_live_of_expired (h.index.keys.lookup_eq_some hm) hexp

theorem IsKept.run_clear_stores (h : IsKept disk folder records) :
    IsKept (Disk.run clear disk).2 folder [] ∧
      ∀ key, Stores (Disk.run clear disk).2 folder [] key none := by
  obtain ⟨hindexes, htidy, hgone⟩ := h.run_clear h.tidy
  exact ⟨⟨hindexes, htidy, fun k hk => absurd hk List.not_mem_nil⟩,
    fun key => stores_none (hgone key)⟩

/-- The cache can be opened again, and leaves what was there. -/
theorem IsKept.attach_isSame (h : IsKept disk folder records) (ttl : Span) :
    ∃ c, attach ttl disk = (.ok (), c) ∧ c.ttl = ttl ∧ IsKept c.disk folder records ∧
      ∀ key, IsSame folder disk records c.disk records key := by
  have hmake : disk.make = (.ok (), disk) := by
    rw [Disk.make, FileTree.makeFolders_of_folder h.keeps.home h.keeps.steps]
  refine ⟨⟨ttl, (Disk.run prepare disk).2⟩, by rw [attach, hmake], rfl, ?_, h.run_prepare_isSame⟩
  exact ⟨h.run_prepare, (h.keeps.run_isTidy h.tidy prepare_asks).2, h.recordKeys⟩

theorem IsKept.attach_stores (h : IsKept disk folder records) (ttl : Span) :
    ∃ c, attach ttl disk = (.ok (), c) ∧ c.ttl = ttl ∧ IsKept c.disk folder records ∧
      ∀ key d, Stores disk folder records key d → Stores c.disk folder records key d := by
  obtain ⟨c, hattach, httl, hkept, hsame⟩ := h.attach_isSame ttl
  exact ⟨c, hattach, httl, hkept, fun key d hd => hd.of_isSame (hsame key)⟩

/-- A cache that keeps its folder, with a deposit or none under a key. -/
def HoldsUnder (ttl : Span) (folder : Path) (key : Text) (c : FileCache) (d : Option Deposit) :
    Prop :=
  c.ttl = ttl ∧ ∃ records, IsKept c.disk folder records ∧ Stores c.disk folder records key d

/-- A call keeps the cache in step with the deposit under a key whose digest no other key of the call
has. -/
theorem HoldsUnder.carryOut {c : FileCache} (h : HoldsUnder ttl folder key c d) (hnow : now.IsTold)
    {call : CacheCall} (hkeys : ∀ other ∈ call.keys, fileKey key = fileKey other → key = other)
    (hread : ∀ other data isError, call = .add other data isError →
      Json.read (entryText (Entry.at now data isError)) =
        .ok (Entry.at now data isError).toJson) :
    HoldsLive ttl (HoldsUnder ttl folder key (call.carryOut c now)) now (call.effect key now d) := by
  obtain ⟨rfl, records, hkept, hd⟩ := h
  have hget : ∀ other, HoldsLive c.ttl
      (HoldsUnder c.ttl folder key (ResultCache.get c now other).2) now d := by
    intro other
    obtain ⟨records', hkept', hstores⟩ := hkept.run_get_stores c.ttl now other
    exact (hstores key d hd).imp fun d hd => ⟨rfl, records', hkept', hd⟩
  cases call with
  | add other data isError =>
    obtain ⟨after, records', hrun, hkept', hself, hothers⟩ :=
      hkept.run_add_stores hnow other (hread other data isError rfl)
    have hafter : (CacheCall.add other data isError).carryOut c now = { c with disk := after } := by
      rw [CacheCall.carryOut]
      simp only [ResultCache.add, perform_eq hrun]
    rw [hafter, CacheCall.effect]
    split
    · next hk =>
      subst hk
      exact .inl ⟨rfl, records', hkept', hself⟩
    · next hk =>
      have hne : fileKey key ≠ fileKey other := fun he =>
        hk (hkeys other List.mem_cons_self he).symm
      exact .inl ⟨rfl, records', hkept', hothers key d hne hd⟩
  | get other => exact hget other
  | getTime other =>
    rw [CacheCall.carryOut, ResultCache.getTime_snd]
    exact hget other
  | delete other =>
    obtain ⟨after, records', hrun, hkept', hself, hothers⟩ := hkept.run_delete_stores other
    have hafter : (CacheCall.delete other).carryOut c now = { c with disk := after } := by
      rw [CacheCall.carryOut]
      simp only [ResultCache.delete, perform_eq hrun]
    rw [hafter, CacheCall.effect]
    split
    · next hk =>
      subst hk
      exact .inl ⟨rfl, records', hkept', hself⟩
    · next hk =>
      have hne : fileKey key ≠ fileKey other := fun he =>
        hk (hkeys other List.mem_cons_self he).symm
      exact .inl ⟨rfl, records', hkept', hothers key d hne hd⟩
  | cleanup =>
    obtain ⟨records', hkept', hstores⟩ := hkept.run_cleanup_stores c.ttl now
    exact (hstores key d hd).imp fun d hd => ⟨rfl, records', hkept', hd⟩
  | clear =>
    obtain ⟨hkept', hstores⟩ := hkept.run_clear_stores
    exact .inl ⟨rfl, [], hkept', hstores key⟩
  | reopen =>
    obtain ⟨after, hattach, httl, hkept', hstores⟩ := hkept.attach_stores c.ttl
    have hafter : CacheCall.reopen.carryOut c now = after := by
      change (attach c.ttl c.disk).2 = after
      rw [hattach]
    rw [hafter]
    exact .inl ⟨httl, records, hkept', hstores key d hd⟩

theorem HoldsUnder.get_fst {c : FileCache} (h : HoldsUnder ttl folder key c d) (now : Instant) :
    (ResultCache.get c now key).1 = .ok ((d.filter (·.isLive ttl now)).map (·.entry.toJson)) := by
  obtain ⟨rfl, records, hkept, hd⟩ := h
  cases d with
  | none =>
    have hget := run_get_missing hkept.keeps c.ttl now hd.content
    exact congrArg Prod.fst (perform_eq hget)
  | some e =>
    have hexp := isExpired_deposit (hd.told e rfl) c.ttl now
    rw [Option.filter_some]
    cases hl : e.isLive c.ttl now with
    | true =>
      rw [hl] at hexp
      have hget := hkept.run_get_live hd.content (hd.record e rfl) (hd.read_back e rfl) hexp
      exact congrArg Prod.fst (perform_eq hget)
    | false =>
      rw [hl] at hexp
      rcases hkept.run_get c.ttl now key with ⟨hlive, -⟩ | ⟨-, after, hget, -⟩
      · refine absurd ⟨?_, key, e.entry, hd.record e rfl, hexp⟩ hlive
        rw [hd.content]
        rfl
      · exact congrArg Prod.fst (perform_eq hget)

/-- Where a cache can be opened it is alone with its kind of files, and has none yet. -/
theorem IsReady.isKept {disk : Disk} (h : IsReady disk) (hp : Assoc.HasDistinctKeys disk.tree) :
    ∃ folder, IsKept disk.make.2 folder [] ∧
      ∀ key, disk.make.2.content? folder (fileName (fileKey key)) = none := by
  obtain ⟨folder, hindexes⟩ := h.indexes
  have hpaths : Assoc.HasDistinctKeys disk.make.2.tree := hp.makeFolders disk.home
  obtain ⟨found, hnames, -, hmem⟩ := FileTree.names_eq_ok hindexes.keeps.home hpaths
  have hfree : ∀ name node, (folder ++ [name], node) ∈ disk.make.2.tree →
      isCacheFile name = false := by
    intro name node hm
    obtain ⟨found', hfound, hno⟩ := h.names
    rw [Disk.names?, hnames] at hfound
    cases hfound
    exact hno name ((hmem name).2 ⟨node, hm⟩)
  refine ⟨folder, ⟨hindexes, ⟨hpaths, fun name node hm hk => ?_⟩, ?_⟩, fun key => ?_⟩
  · rw [hfree name node hm] at hk
    cases hk
  · exact fun k hk => absurd hk List.not_mem_nil
  · cases hc : disk.make.2.content? folder (fileName (fileKey key)) with
    | none => rfl
    | some content =>
      have hlookup := hindexes.keeps.lookup_eq (isOwnName_file key)
      rw [hc] at hlookup
      have hno := hfree _ _ (Assoc.mem_of_lookup_eq_some hlookup)
      rw [(isOwnName_file key).isCacheFile] at hno
      cases hno

/-- A cache opened on a disk that is ready holds nothing. -/
theorem IsReady.holdsUnder {ttl : Span} {disk : Disk} {c : FileCache} (h : IsReady disk)
    (hp : Assoc.HasDistinctKeys disk.tree) (hattach : attach ttl disk = (.ok (), c)) :
    ∃ folder, ∀ key, HoldsUnder ttl folder key c none := by
  obtain ⟨folder, hkept, hfree⟩ := h.isKept hp
  rw [attach_eq_ok hattach]
  refine ⟨folder, fun key => ⟨rfl, [], ?_, ?_⟩⟩
  · exact ⟨hkept.run_prepare, (hkept.keeps.run_isTidy hkept.tidy prepare_asks).2,
      hkept.recordKeys⟩
  · exact (stores_none (hfree key)).of_isSame (hkept.run_prepare_isSame key)

end QueryFence.FileCache
