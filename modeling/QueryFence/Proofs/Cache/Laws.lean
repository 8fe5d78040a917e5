import QueryFence.Proofs.Cache.Attach
import QueryFence.Proofs.Cache.Memory

/-!
What both caches have in common for whoever refreshes: a deletion leaves nothing to be found, what is
stored is there, and looking it up at that time does not take it away.
-/

namespace QueryFence

/-- What holds of a cache as long as nobody else changes it. -/
structure CacheLaws (σ : Type) [ResultCache σ] where
  Sound : σ → Prop
  /-- The outcome under a key is one that was just stored. -/
  Holds : σ → Text → Entry → Prop
  get_sound : ∀ {c : σ} (now : Instant) (key : Text), Sound c →
    Sound (ResultCache.get c now key).2
  delete_ok : ∀ {c : σ} (key : Text), Sound c →
    ∃ after, ResultCache.delete c key = (.ok (), after) ∧ Sound after ∧
      ∀ now, (ResultCache.get after now key).1 = .ok none
  add_ok : ∀ {c : σ} {now : Instant} (key : Text) (data : Json) (isError : Bool), Sound c →
    now.IsTold → ∃ after, ResultCache.add c now key data isError =
        (.ok (Entry.at now data isError).toJson, after) ∧ Sound after ∧
      Holds after key (Entry.at now data isError)
  get_holds : ∀ {c : σ} {now : Instant} {key : Text} {data : Json} {isError : Bool}, Sound c →
    now.IsTold → Holds c key (Entry.at now data isError) →
    Holds (ResultCache.get c now key).2 key (Entry.at now data isError)

namespace MemoryCache

/-- An outcome that was just stored is there, unless the cache keeps none for any time. -/
def Holds (c : MemoryCache) (key : Text) (e : Entry) : Prop :=
  c.find? key = some e ∨ (c.ttl.micros < 0 ∧ c.find? key = none)

theorem IsSound.get_erase {c : MemoryCache} (h : c.IsSound) (key : Text) (now : Instant) :
    (ResultCache.get (c.erase key) now key).1 = .ok none := by
  rcases ((c.isRest_erase key).isSound h).result_get now key with
    ⟨rest, -, hget⟩ | ⟨e, hm, -⟩
  · rw [hget]
  · exact absurd rfl (Assoc.ne_of_mem_erase hm)

theorem IsSound.get_holds {c : MemoryCache} (h : c.IsSound) {now : Instant} (hnow : now.IsTold)
    {key : Text} {data : Json} {isError : Bool} (hh : c.Holds key (Entry.at now data isError)) :
    (ResultCache.get c now key).2.Holds key (Entry.at now data isError) := by
  rcases h.get_spec now key with ⟨rest, hrest, hnone, hget, hexp⟩ | ⟨e, hfind, hget⟩
  · have hafter : (ResultCache.get c now key).2 = rest := by simp only [ResultCache.get, hget]
    rw [hafter]
    refine .inr ⟨?_, hnone⟩
    rw [hrest.ttl]
    rcases hh with hfind | ⟨hneg, -⟩
    · have hage := (isExpired_stored hnow rfl now).symm.trans (hexp _ hfind)
      simpa using hage
    · exact hneg
  · have hafter : (ResultCache.get c now key).2 = c := by simp only [ResultCache.get, hget]
    rwa [hafter]

/-- The cache in memory keeps the laws while every outcome was stored at an instant. -/
def laws : CacheLaws MemoryCache where
  Sound := IsSound
  Holds := Holds
  get_sound now key h := (h.result_get_snd now key).isSound h
  delete_ok {c} key h :=
    ⟨c.erase key, rfl, (c.isRest_erase key).isSound h, fun now => h.get_erase key now⟩
  add_ok {_ now} key data isError h hnow := by
    obtain ⟨rest, hrest, hadd⟩ := h.result_add now key data isError
    exact ⟨_, hadd, (hrest.isSound h).put hnow key rfl, .inl (find?_put_self _ _ _)⟩
  get_holds h hnow hh := h.get_holds hnow hh

end MemoryCache

namespace FileCache

/-- An outcome that was just stored has its file and its record, unless the cache keeps none for any
time. -/
def Holds (c : FileCache) (key : Text) (e : Entry) : Prop :=
  c.Contains key e ∨ (c.ttl.micros < 0 ∧ c.Misses key)

theorem isExpired_stored (ttl : Span) {now : Instant} (hnow : now.IsTold) :
    isExpired ttl now (.text now.isoText) = decide (ttl.micros < 0) := by
  simp only [isExpired, Iso.read_isoText hnow, Int.sub_self]

theorem IsSound.get_holds {c : FileCache} (h : c.IsSound) {now : Instant} (hnow : now.IsTold)
    {key : Text} {data : Json} {isError : Bool} (hh : c.Holds key (Entry.at now data isError)) :
    (ResultCache.get c now key).2.Holds key (Entry.at now data isError) := by
  rcases h.result_get now key with ⟨hsame, -⟩ | ⟨httl, -, hgone, hexp⟩
  · rwa [hsame]
  · refine .inr ⟨?_, hgone⟩
    rw [httl]
    rcases hh with hthere | ⟨hneg, -⟩
    · have htime : (Entry.at now data isError).time = now.isoText := rfl
      have hage := hexp _ hthere
      rw [htime, isExpired_stored c.ttl hnow] at hage
      exact of_decide_eq_true hage
    · exact hneg

/-- The cache in a folder keeps the laws while nobody else writes there. -/
def laws : CacheLaws FileCache where
  Sound := IsSound
  Holds := Holds
  get_sound now key h := by
    rcases h.result_get now key with ⟨hsame, -⟩ | ⟨-, hsound, -⟩
    · rwa [hsame]
    · exact hsound
  delete_ok key h := by
    obtain ⟨after, hdelete, -, hsound, hgone⟩ := h.result_delete key
    exact ⟨after, hdelete, hsound, fun now => by rw [hsound.result_get_of_misses hgone]⟩
  add_ok {_ now} key data isError h _ := by
    obtain ⟨after, hadd, -, hsound, hthere⟩ := h.result_add now key data isError
    have hholds : after.Holds key (Entry.at now data isError) := Or.inl hthere
    exact ⟨after, hadd, hsound, hholds⟩
  get_holds h hnow hh := h.get_holds hnow hh

end FileCache

end QueryFence
