import Mathlib
import QueryFence.Proofs.Cache.FolderCalls
import QueryFence.Proofs.Cache.MemoryCalls

/-!
Both caches against the history of their calls. Whatever was called before, a look-up finds under a key
the outcome that was last added there and is neither removed nor too old; so the two caches cannot be
told apart by looking up.
-/

namespace QueryFence

namespace CacheHistory

variable {calls : CacheHistory} {ttl : Span} {now : Instant} {key : Text}

/-- Every clock can show the instants of the calls and the one after them, and they do not go back. -/
structure IsTimely (calls : CacheHistory) (now : Instant) : Prop where
  told : ∀ t ∈ calls.map Prod.fst ++ [now], t.IsTold
  forward : (calls.map Prod.fst ++ [now]).Pairwise (·.micros ≤ ·.micros)

/-- What the calls and a look-up name can be kept in files: no two keys share a digest, and what is
added is read back as it was written. -/
structure IsStorable (calls : CacheHistory) (key : Text) : Prop where
  digests : ∀ a ∈ key :: calls.flatMap (·.2.keys), ∀ b ∈ key :: calls.flatMap (·.2.keys),
    FileCache.fileKey a = FileCache.fileKey b → a = b
  read_back : ∀ t other data isError, (t, CacheCall.add other data isError) ∈ calls →
    Json.read (FileCache.entryText (Entry.at t data isError)) =
      .ok (Entry.at t data isError).toJson

theorem IsTimely.told_of_mem (h : calls.IsTimely now) {call : Instant × CacheCall}
    (hm : call ∈ calls) : call.1.IsTold :=
  h.told call.1 (List.mem_append_left _ (List.mem_map_of_mem hm))

/-- The cache in memory holds what the history of its calls leaves, unless that has expired. -/
theorem IsTimely.memory_holdsLive (h : calls.IsTimely now) (ttl : Span) (key : Text) :
    HoldsLive ttl (MemoryCache.KeepsUnder ttl key (calls.carryOut (MemoryCache.empty ttl))) now
      (calls.deposit? key) := by
  refine carryOut_holdsLive ?_ h.forward fun t _ => .inl (MemoryCache.keepsUnder_empty ttl key)
  intro call hm c d hd
  exact hd.carryOut (h.told_of_mem hm) call.2

/-- So does the cache in a folder. -/
theorem IsTimely.folder_holdsLive (h : calls.IsTimely now) (hs : calls.IsStorable key)
    {folder : Path} {c : FileCache} (hc : FileCache.HoldsUnder ttl folder key c none) :
    HoldsLive ttl (FileCache.HoldsUnder ttl folder key (calls.carryOut c)) now
      (calls.deposit? key) := by
  refine carryOut_holdsLive ?_ h.forward fun t _ => .inl hc
  intro call hm c d hd
  apply hd.carryOut (h.told_of_mem hm)
  · intro other ho he
    exact hs.digests key List.mem_cons_self other
      (List.mem_cons_of_mem _ (List.mem_flatMap.2 ⟨call, hm, ho⟩)) he
  · rintro other data isError he
    apply hs.read_back call.1 other data isError
    rw [← he]
    exact hm

theorem IsTimely.memory_get (h : calls.IsTimely now) (ttl : Span) (key : Text) :
    (ResultCache.get (calls.carryOut (MemoryCache.empty ttl)) now key).1 =
        .ok ((calls.live? ttl key now).map (·.entry.toJson)) ∧
      ∀ d ∈ calls.live? ttl key now, d.time.IsTold := by
  obtain ⟨held, ⟨httl, -, hheld⟩, hlive⟩ := (h.memory_holdsLive ttl key).exists_holds
  rw [live?, ← hlive]
  refine ⟨?_, fun d hd => hheld.2 d (Option.mem_filter_iff.1 hd).1⟩
  have hget := hheld.get_fst now
  rw [httl] at hget
  exact hget

theorem IsTimely.folder_get (h : calls.IsTimely now) (hs : calls.IsStorable key)
    {folder : Path} {c : FileCache} (hc : FileCache.HoldsUnder ttl folder key c none) :
    (ResultCache.get (calls.carryOut c) now key).1 =
      .ok ((calls.live? ttl key now).map (·.entry.toJson)) := by
  obtain ⟨held, hheld, hlive⟩ := (h.folder_holdsLive hs hc).exists_holds
  rw [live?, ← hlive]
  exact hheld.get_fst now

/-- After adding, the cache in memory holds under any other key only what is live. -/
theorem IsTimely.memory_add_live (h : calls.IsTimely now) {other : Text} (hne : other ≠ key)
    {data : Json} {isError : Bool} {e : Entry}
    (hfind : ((calls.carryOut (MemoryCache.empty ttl)).add now key data isError).2.find? other =
      some e) : ∃ d, calls.live? ttl other now = some d ∧ e = d.entry := by
  obtain ⟨held, ⟨httl, hsound, hheld⟩, hlive⟩ := (h.memory_holdsLive ttl other).exists_holds
  obtain ⟨rest, hadd, -, hrest⟩ := hsound.add_eq now key data isError
  have hleft := (hrest other held hheld).1
  rw [httl, hlive] at hleft
  rw [hadd, MemoryCache.find?_put_of_ne hne, hleft] at hfind
  obtain ⟨d, hd, rfl⟩ := Option.map_eq_some_iff.1 hfind
  exact ⟨d, hd, rfl⟩

/-- A cache finds under a key what is live there after the calls, and shows its time. -/
structure IsAnsweredBy {σ : Type} [ResultCache σ] (calls : CacheHistory) (ttl : Span) (key : Text)
    (now : Instant) (cache : σ) : Prop where
  get : (ResultCache.get cache now key).1 =
    .ok ((calls.live? ttl key now).map (·.entry.toJson))
  getTime : (ResultCache.getTime cache now key).1 =
    .ok (Deposit.shownTime (calls.live? ttl key now))

/-- Whatever was called before, both caches find under a key the outcome last added there, if it was
not removed since and is not too old, and show its time; and adding to the cache in memory leaves
nothing else there that is too old. -/
theorem isAnsweredBy_both {disk : Disk} {c : FileCache} (hready : FileCache.IsReady disk)
    (hpaths : Assoc.HasDistinctKeys disk.tree) (hopen : FileCache.attach ttl disk = (.ok (), c))
    (htime : calls.IsTimely now) (hstore : calls.IsStorable key) :
    calls.IsAnsweredBy ttl key now (calls.carryOut (MemoryCache.empty ttl)) ∧
      calls.IsAnsweredBy ttl key now (calls.carryOut c) ∧
      ∀ data isError (other : Text) e, other ≠ key →
        ((calls.carryOut (MemoryCache.empty ttl)).add now key data isError).2.find? other = some e →
          ∃ d, calls.live? ttl other now = some d ∧ e = d.entry := by
  obtain ⟨path, hnone⟩ := hready.holdsUnder hpaths hopen
  obtain ⟨hmemory, htold⟩ := htime.memory_get ttl key
  have hfolder := htime.folder_get hstore (hnone key)
  exact ⟨⟨hmemory, ResultCache.getTime_fst hmemory htold⟩,
    ⟨hfolder, ResultCache.getTime_fst hfolder htold⟩,
    fun data isError other e hne hfind => htime.memory_add_live hne hfind⟩

/-- An outcome that is replaced after the cache was opened again, and one that has become too old. -/
theorem isAnsweredBy_both_of_replaced :
    let disk : Disk := ⟨["cache"], []⟩
    let ttl : Span := ⟨10⟩
    let c := (FileCache.attach ttl disk).2
    let calls : CacheHistory := [(⟨0⟩, .add "b" (.text "old") true), (⟨1⟩, .add "a" (.int 1) false),
      (⟨8⟩, .reopen), (⟨9⟩, .cleanup), (⟨9⟩, .add "a" (.int 2) false), (⟨12⟩, .get "b")]
    let now : Instant := ⟨19⟩
    let key : Text := "a"
    (FileCache.IsReady disk ∧ Assoc.HasDistinctKeys disk.tree ∧
      FileCache.attach ttl disk = (.ok (), c) ∧ calls.IsTimely now ∧ calls.IsStorable key) ∧
    calls.IsAnsweredBy ttl key now (calls.carryOut (MemoryCache.empty ttl)) ∧
      calls.IsAnsweredBy ttl key now (calls.carryOut c) ∧
      ∀ data isError (other : Text) e, other ≠ key →
        ((calls.carryOut (MemoryCache.empty ttl)).add now key data isError).2.find? other = some e →
          ∃ d, calls.live? ttl other now = some d ∧ e = d.entry := by
  intro disk ttl c calls now key
  have hready : FileCache.IsReady disk := ⟨by decide, ⟨[], by cbv, nofun⟩, by decide⟩
  have hpaths : Assoc.HasDistinctKeys disk.tree := List.nodup_nil
  have hmade : (FileCache.attach ttl disk).1 = .ok () := by cbv
  have hopen : FileCache.attach ttl disk = (.ok (), c) := Prod.ext hmade rfl
  have htime : calls.IsTimely now := by
    constructor
    · decide
    · decide
  have hstore : calls.IsStorable key := by
    have hkeys : ∀ a ∈ key :: calls.flatMap (·.2.keys), a = "a" ∨ a = "b" := by decide
    have hne : FileCache.fileKey "a" ≠ FileCache.fileKey "b" := by decide +kernel
    constructor
    · intro a ha b hb he
      rcases hkeys a ha with rfl | rfl <;> rcases hkeys b hb with rfl | rfl
      · rfl
      · exact absurd he hne
      · exact absurd he.symm hne
      · rfl
    · intro t other data isError hm
      apply FileCache.read_entryText
      change data.IsExact
      simp only [calls, List.mem_cons, Prod.mk.injEq, CacheCall.add.injEq, reduceCtorEq, and_false,
        false_or, List.not_mem_nil, or_false] at hm
      have hone : (Text.ofNat (Int.natAbs 1)).length ≤ Text.numeralLimit := by decide
      have htwo : (Text.ofNat (Int.natAbs 2)).length ≤ Text.numeralLimit := by decide
      rcases hm with ⟨-, -, rfl, -⟩ | ⟨-, -, rfl, -⟩ | ⟨-, -, rfl, -⟩
      · trivial
      · exact hone
      · exact htwo
  exact ⟨⟨hready, hpaths, hopen, htime, hstore⟩, isAnsweredBy_both hready hpaths hopen htime hstore⟩

end CacheHistory

end QueryFence
