import QueryFence.Proofs.Cache.Crash
import QueryFence.Proofs.Cache.Recall
import QueryFence.Proofs.Cache.Refinement

/-!
Opening the cache in a folder again after a call was stopped before its end: it can be opened and used,
finds only outcomes that were added as a whole, and finds again what is added from then on.
-/

namespace QueryFence

namespace FileCache

open QueryFence.Disk (Guards Leaves)

/-- What a call does in the folder. Opening the cache again makes no folder where there is one. -/
def callPlan (ttl : Span) (now : Instant) : CacheCall → DiskPlan Unit
  | .add key data isError => do
    let _ ← add now key data isError
    return ()
  | .get key | .getTime key => do
    let _ ← get ttl now key
    return ()
  | .delete key => do
    let _ ← delete key
    return ()
  | .cleanup => do
    let _ ← cleanup ttl now
    return ()
  | .clear => clear
  | .reopen => prepare

variable {added : Text → Entry → Prop} {folder : Path} {disk : Disk} {c : FileCache} {ttl : Span}
  {now : Instant} {call : CacheCall} {key : Text}

theorem IsLeft.make_eq (h : IsLeft folder added disk) : disk.make = (.ok (), disk) := by
  rw [Disk.make, FileTree.makeFolders_of_folder h.keeps.home h.keeps.steps]

/-- A call does in the folder what its plan does. -/
theorem IsLeft.carryOut_eq (h : IsLeft folder added c.disk) (now : Instant) (call : CacheCall) :
    call.carryOut c now = ⟨c.ttl, (Disk.run (callPlan c.ttl now call) c.disk).2⟩ := by
  cases call with
  | add key data isError =>
    rw [callPlan, Disk.run_bind]
    rfl
  | get key =>
    rw [callPlan, Disk.run_bind]
    rfl
  | getTime key =>
    rw [callPlan, Disk.run_bind, CacheCall.carryOut, ResultCache.getTime_snd]
    rfl
  | delete key =>
    rw [callPlan, Disk.run_bind]
    rfl
  | cleanup =>
    rw [callPlan, Disk.run_bind]
    rfl
  | clear => rfl
  | reopen =>
    change (attach c.ttl c.disk).2 = _
    rw [attach, h.make_eq]
    rfl

/-- Wherever a call is stopped, the folder is left as calls may leave it. -/
theorem guards_callPlan (hadded : ∀ key e, added key e → e.data.IsExact)
    (hcall : ∀ key data isError, call = .add key data isError → added key (Entry.at now data isError)) :
    Guards (IsLeft folder added) (callPlan ttl now call) fun _ => True := by
  cases call with
  | add key data isError =>
    exact (guards_add hadded now (hcall key data isError rfl)).bind fun _ _ => Disk.guards_pure trivial
  | get key => exact (guards_get hadded ttl now key).bind fun _ _ => Disk.guards_pure trivial
  | getTime key => exact (guards_get hadded ttl now key).bind fun _ _ => Disk.guards_pure trivial
  | delete key => exact (guards_removeEntry key).bind fun _ _ => Disk.guards_pure trivial
  | cleanup => exact (guards_cleanup ttl now).bind fun _ _ => Disk.guards_pure trivial
  | clear => exact guards_clear
  | reopen => exact guards_prepare

theorem IsLeft.carryOut_history (hadded : ∀ key e, added key e → e.data.IsExact)
    {calls : CacheHistory} (hcalls : ∀ t key data isError, (t, CacheCall.add key data isError) ∈ calls →
      added key (Entry.at t data isError)) (h : IsLeft folder added c.disk) :
    (calls.carryOut c).ttl = c.ttl ∧ IsLeft folder added (calls.carryOut c).disk := by
  induction calls generalizing c with
  | nil => exact ⟨rfl, h⟩
  | cons call calls ih =>
    have hfirst : Guards (IsLeft folder added) (callPlan c.ttl call.1 call.2) fun _ => True := by
      apply guards_callPlan hadded
      intro key data isError hadd
      exact hcalls call.1 key data isError (hadd ▸ List.mem_cons_self)
    have hafter : (call.2.carryOut c call.1).ttl = c.ttl ∧
        IsLeft folder added (call.2.carryOut c call.1).disk := by
      rw [h.carryOut_eq]
      exact ⟨rfl, hfirst.run h⟩
    obtain ⟨httl, hleft⟩ :=
      ih (fun t key data isError hm => hcalls t key data isError (List.mem_cons_of_mem _ hm)) hafter.2
    exact ⟨httl.trans hafter.1, hleft⟩

theorem IsLeft.mono (h : IsLeft folder added disk) {more : Text → Entry → Prop}
    (hmore : ∀ key e, added key e → more key e) : IsLeft folder more disk := by
  refine ⟨h.keeps, h.tidy, fun name hn content hc => ?_⟩
  cases h.contents name hn content hc with
  | malformed h => exact .malformed h
  | index h => exact .index h
  | entry h => exact .entry (hmore _ _ h)

/-- The cache can be opened where it was left. -/
theorem IsLeft.attach_eq (h : IsLeft folder added disk) (ttl : Span) :
    ∃ c, attach ttl disk = (.ok (), c) ∧ c.ttl = ttl ∧ IsLeft folder added c.disk := by
  refine ⟨⟨ttl, (Disk.run prepare disk).2⟩, ?_, rfl, guards_prepare.run h⟩
  rw [attach, h.make_eq]

/-- A cache that was just opened has nothing left over. -/
theorem IsReady.isLeft (h : IsReady disk) (hp : Assoc.HasDistinctKeys disk.tree)
    (hattach : attach ttl disk = (.ok (), c)) : c.ttl = ttl ∧ ∃ folder, IsLeft folder added c.disk := by
  obtain ⟨folder, hkept, hfree⟩ := h.isKept hp
  obtain rfl := attach_eq_ok hattach
  have hleft : IsLeft folder added disk.make.2 := by
    refine ⟨hkept.keeps, hkept.tidy, fun name hn content hc => ?_⟩
    rcases hn with rfl | ⟨key, rfl⟩
    · rcases hkept.content with hindex | ⟨hnone, -⟩
      · rw [hindex] at hc
        cases hc
        exact .index ⟨isIndex_nil, fun _ hk => absurd hk List.not_mem_nil⟩
      · rw [hnone] at hc
        cases hc
    · rw [hfree key] at hc
      cases hc
  exact ⟨rfl, folder, guards_prepare.run hleft⟩

theorem run_loadIndex_snd (disk : Disk) : (Disk.run loadIndex disk).2 = disk := by
  have hread : (Disk.answer (.read indexName) disk).2 = disk := rfl
  rw [loadIndex, Disk.run_bind, Disk.run_read]
  split
  · exact hread
  · exact hread
  · split
    · exact hread
    · exact hread
    · exact hread

/-- What is stored in a folder that was left somehow is found there again. -/
theorem IsLeft.storesFor (h : IsLeft folder added c.disk) {d : Deposit} (htold : d.time.IsTold)
    (hdata : d.data.IsExact) (key : Text) : StoresFor c.ttl c key d := by
  obtain ⟨records, hload, hrecords⟩ := guards_loadIndex.result h
  have hopens : Opens c.disk folder records :=
    ⟨h.keeps, hrecords.index.isExact, Prod.ext hload (run_loadIndex_snd _)⟩
  obtain ⟨after, hrun, hafter, hindex, hfile, -⟩ := hopens.run_add d.time key d.data d.isError
  have hindexes : Indexes ({ c with disk := after } : FileCache).disk folder _ :=
    ⟨hafter.keeps, hrecords.index.put _ key d.entry, .inl hindex⟩
  have hsound : IsSound { c with disk := after } := ⟨folder, _, hindexes⟩
  refine ⟨{ c with disk := after }, ?_, hsound.recalls ?_ htold hdata⟩
  · simp only [ResultCache.add, perform_eq hrun]
    rfl
  · exact hindexes.contains_iff.2 ⟨hfile, Assoc.lookup_put_self _ _ _⟩

end FileCache

namespace CacheHistory

open FileCache

variable {calls : CacheHistory} {c : FileCache} {key : Text} {ttl : Span} {now : Instant}

/-- The outcomes that calls add. -/
def Adds (calls : CacheHistory) (key : Text) (e : Entry) : Prop :=
  ∃ t data isError, (t, CacheCall.add key data isError) ∈ calls ∧ e = Entry.at t data isError

/-- All that calls add is JSON. -/
def AddsJson (calls : CacheHistory) : Prop :=
  ∀ t key data isError, (t, CacheCall.add key data isError) ∈ calls → data.IsExact

theorem AddsJson.isExact (h : calls.AddsJson) (key : Text) (e : Entry) (he : calls.Adds key e) :
    e.data.IsExact := by
  obtain ⟨t, data, isError, hm, rfl⟩ := he
  exact h t key data isError hm

/-- Every look-up under a key ends well, and finds nothing or a whole outcome that was added for the
key. -/
def FindsWhole (calls : CacheHistory) (c : FileCache) (key : Text) : Prop :=
  ∀ now, ∃ found, (ResultCache.get c now key).1 = .ok found ∧
    ∀ record ∈ found, ∃ e, calls.Adds key e ∧ record = e.toJson

theorem findsWhole_of_isLeft {folder : Path} (hjson : calls.AddsJson)
    (h : IsLeft folder calls.Adds c.disk)
    (hdigests : ∀ other ∈ calls.flatMap (·.2.keys), fileKey other = fileKey key → other = key) :
    calls.FindsWhole c key := by
  intro now
  obtain ⟨found, hfound, hall⟩ := (guards_get hjson.isExact c.ttl now key).result h
  refine ⟨found, hfound, fun record hrecord => ?_⟩
  obtain ⟨other, e, hkey, he, heq⟩ := hall record hrecord
  obtain ⟨t, data, isError, hm, -⟩ := id he
  have hother := hdigests other (List.mem_flatMap.2 ⟨_, hm, List.mem_cons_self⟩) hkey
  exact ⟨e, hother ▸ he, heq⟩

end CacheHistory

end QueryFence
