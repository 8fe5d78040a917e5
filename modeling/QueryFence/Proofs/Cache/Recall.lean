import QueryFence.Proofs.Cache.FolderCalls
import QueryFence.Proofs.Cache.Laws
import QueryFence.Proofs.Cache.MemoryCalls

/-!
What is stored in a cache is found there as it is, and only found: no look-up within its time changes
the cache. In a folder this needs an outcome that JSON gives back.
-/

namespace QueryFence

section Caches

variable {σ : Type} [ResultCache σ]

/-- Every look-up within the time of a deposit finds it and changes nothing. -/
def Recalls (ttl : Span) (c : σ) (key : Text) (d : Deposit) : Prop :=
  ∀ later, d.isLive ttl later = true →
    ResultCache.get c later key = (.ok (some d.entry.toJson), c)

/-- Storing an outcome is possible, and it is found then. -/
def StoresFor (ttl : Span) (c : σ) (key : Text) (d : Deposit) : Prop :=
  ∃ after, ResultCache.add c d.time key d.data d.isError = (.ok d.entry.toJson, after) ∧
    Recalls ttl after key d

/-- The laws hold along with whatever else look-ups, deletions and additions keep. -/
def CacheLaws.along (L : CacheLaws σ) (P : σ → Prop)
    (get_keeps : ∀ {c : σ} now key, L.Sound c → P c → P (ResultCache.get c now key).2)
    (delete_keeps : ∀ {c : σ} key, L.Sound c → P c → P (ResultCache.delete c key).2)
    (add_keeps : ∀ {c : σ} now key data isError, L.Sound c → P c →
      P (ResultCache.add c now key data isError).2) : CacheLaws σ where
  Sound c := L.Sound c ∧ P c
  Holds := L.Holds
  get_sound now key h := ⟨L.get_sound now key h.1, get_keeps now key h.1 h.2⟩
  delete_ok key h := by
    obtain ⟨after, hdelete, hafter, hnone⟩ := L.delete_ok key h.1
    have hkeeps := delete_keeps key h.1 h.2
    rw [hdelete] at hkeeps
    exact ⟨after, hdelete, ⟨hafter, hkeeps⟩, hnone⟩
  add_ok {_ now} key data isError h hnow := by
    obtain ⟨after, hadd, hafter, hholds⟩ := L.add_ok key data isError h.1 hnow
    have hkeeps := add_keeps now key data isError h.1 h.2
    rw [hadd] at hkeeps
    exact ⟨after, hadd, ⟨hafter, hkeeps⟩, hholds⟩
  get_holds h hnow hholds := L.get_holds h.1 hnow hholds

end Caches

namespace MemoryCache

variable {c : MemoryCache} {key : Text} {d : Deposit}

theorem recalls_of_find? (hfind : c.find? key = some d.entry) (htold : d.time.IsTold) :
    Recalls c.ttl c key d := by
  intro later hlive
  have hexp := isExpired_deposit htold c later
  rw [hlive] at hexp
  simp only [ResultCache.get, get, hfind, hexp]
  rfl

theorem IsSound.storesFor (h : c.IsSound) (htold : d.time.IsTold) (key : Text) :
    StoresFor c.ttl c key d := by
  obtain ⟨rest, hrest, hadd⟩ := h.result_add d.time key d.data d.isError
  refine ⟨_, hadd, ?_⟩
  rw [← hrest.ttl]
  exact recalls_of_find? (find?_put_self rest key d.entry) htold

/-- The laws of a cache in memory that keeps outcomes for a given time. -/
def lawsFor (ttl : Span) : CacheLaws MemoryCache :=
  laws.along (·.ttl = ttl)
    (fun now key h httl => (IsSound.result_get_snd h now key).ttl.trans httl)
    (fun _ _ httl => httl)
    (fun now key data isError h httl => by
      obtain ⟨rest, hrest, hadd⟩ := IsSound.result_add h now key data isError
      rw [hadd]
      exact hrest.ttl.trans httl)

end MemoryCache

namespace FileCache

variable {c : FileCache} {key : Text} {d : Deposit}

theorem IsSound.recalls (h : c.IsSound) (hthere : c.Contains key d.entry) (htold : d.time.IsTold)
    (hdata : d.data.IsExact) : Recalls c.ttl c key d := by
  intro later hlive
  obtain ⟨folder, records, hi⟩ := h
  obtain ⟨hfile, hrecord⟩ := hi.contains_iff.1 hthere
  have hexp := isExpired_deposit htold c.ttl later
  rw [hlive] at hexp
  exact perform_eq (hi.run_get_live hfile hrecord (read_entryText hdata) hexp)

theorem IsSound.storesFor (h : c.IsSound) (htold : d.time.IsTold) (hdata : d.data.IsExact)
    (key : Text) : StoresFor c.ttl c key d := by
  obtain ⟨after, hadd, httl, hafter, hthere⟩ := h.result_add d.time key d.data d.isError
  refine ⟨after, hadd, ?_⟩
  rw [← httl]
  exact hafter.recalls hthere htold hdata

/-- The laws of a cache in a folder that keeps outcomes for a given time. -/
def lawsFor (ttl : Span) : CacheLaws FileCache :=
  laws.along (·.ttl = ttl)
    (fun now key h httl => by
      rcases IsSound.result_get h now key with ⟨hsame, -⟩ | ⟨hafter, -⟩
      · rw [hsame]
        exact httl
      · exact hafter.trans httl)
    (fun key h httl => by
      obtain ⟨after, hdelete, hafter, -⟩ := IsSound.result_delete h key
      rw [hdelete]
      exact hafter.trans httl)
    (fun now key data isError h httl => by
      obtain ⟨after, hadd, hafter, -⟩ := IsSound.result_add h now key data isError
      rw [hadd]
      exact hafter.trans httl)

/-- A folder in whose index nothing stands. -/
theorem Indexes.run_get_nil {disk : Disk} {folder : Path} (h : Indexes disk folder []) (ttl : Span)
    (now : Instant) (key : Text) : (Disk.run (get ttl now key) disk).1 = .ok none := by
  cases hfile : disk.content? folder (fileName (fileKey key)) with
  | none => rw [run_get_missing h.keeps ttl now hfile]
  | some content =>
    rw [get]
    simp only [Disk.run_bind, Disk.run_exists, h.keeps.answer_exists (isOwnName_file key), hfile,
      Option.isSome_some, if_true, h.run_loadIndex, findRecord_object, List.lookup_nil]
    rfl

/-- A cache that was just opened finds nothing. -/
theorem IsReady.get_eq_none {ttl : Span} {disk : Disk} (h : IsReady disk)
    (hattach : attach ttl disk = (.ok (), c)) (now : Instant) (key : Text) :
    (ResultCache.get c now key).1 = .ok none := by
  obtain ⟨folder, hindexes⟩ := h.indexes
  obtain rfl := attach_eq_ok hattach
  exact hindexes.run_prepare.run_get_nil ttl now key

end FileCache

end QueryFence
