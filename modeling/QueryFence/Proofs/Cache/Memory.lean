import QueryFence.Cache.Memory
import QueryFence.Proofs.Assoc
import QueryFence.Proofs.Calendar.Iso

/-!
The cache in memory: no operation ends in a fault as long as every outcome was stored at an instant,
looking up and deleting only drop outcomes, and storing drops some and then puts the new one.
-/

namespace QueryFence.MemoryCache

/-- No key stands twice, and every outcome was stored at an instant. -/
structure IsSound (c : MemoryCache) : Prop where
  keys : Assoc.HasDistinctKeys c.entries
  times : ∀ k e, (k, e) ∈ c.entries → ∃ t : Instant, t.IsTold ∧ e.time = t.isoText

/-- What is left of a cache that dropped some of its outcomes. -/
structure IsRest (rest c : MemoryCache) : Prop where
  ttl : rest.ttl = c.ttl
  entries : rest.entries.Sublist c.entries

theorem isSound_empty (ttl : Span) : (empty ttl).IsSound :=
  ⟨List.nodup_nil, fun _ _ h => absurd h List.not_mem_nil⟩

theorem IsRest.refl (c : MemoryCache) : c.IsRest c := ⟨rfl, List.Sublist.refl _⟩

theorem IsRest.trans {a b c : MemoryCache} (h : a.IsRest b) (h' : b.IsRest c) : a.IsRest c :=
  ⟨h.ttl.trans h'.ttl, h.entries.trans h'.entries⟩

theorem isRest_erase (c : MemoryCache) (key : Text) : (c.erase key).IsRest c :=
  ⟨rfl, Assoc.erase_sublist key c.entries⟩

theorem IsRest.isSound {rest c : MemoryCache} (h : rest.IsRest c) (hc : c.IsSound) : rest.IsSound :=
  ⟨hc.keys.sublist h.entries, fun k e he => hc.times k e (h.entries.subset he)⟩

theorem IsSound.find?_eq_some_iff {c : MemoryCache} (h : c.IsSound) {key : Text} {e : Entry} :
    c.find? key = some e ↔ (key, e) ∈ c.entries :=
  ⟨Assoc.mem_of_lookup_eq_some, h.keys.lookup_eq_some⟩

/-- The cache after an outcome was put under a key. -/
def put (c : MemoryCache) (key : Text) (e : Entry) : MemoryCache :=
  { c with entries := Assoc.put key e c.entries }

theorem find?_put_self (c : MemoryCache) (key : Text) (e : Entry) :
    (c.put key e).find? key = some e := Assoc.lookup_put_self key e c.entries

theorem IsSound.put {c : MemoryCache} (h : c.IsSound) {t : Instant} (ht : t.IsTold) (key : Text)
    {e : Entry} (he : e.time = t.isoText) : (c.put key e).IsSound := by
  refine ⟨h.keys.put, fun k e' hm => ?_⟩
  rcases Assoc.mem_of_mem_put h.keys hm with ⟨-, rfl⟩ | ⟨-, hold⟩
  · exact ⟨t, ht, he⟩
  · exact h.times k e' hold

section Operations

variable {c : MemoryCache}

theorem isExpired_stored {t : Instant} (ht : t.IsTold) {e : Entry} (he : e.time = t.isoText)
    (now : Instant) :
    c.isExpired now e = .ok (decide (c.ttl.micros < now.micros - t.micros)) := by
  rw [isExpired, he, Iso.read_isoText ht]
  rfl

theorem IsSound.isExpired_ok (h : c.IsSound) (now : Instant) {k : Text} {e : Entry}
    (hm : (k, e) ∈ c.entries) : ∃ expired, c.isExpired now e = .ok expired := by
  obtain ⟨t, ht, he⟩ := h.times k e hm
  exact ⟨_, isExpired_stored ht he now⟩

/-- What a look-up does: it finds the live outcome under the key, or drops the outcome there. -/
theorem IsSound.get_spec (h : c.IsSound) (now : Instant) (key : Text) :
    (∃ rest, rest.IsRest c ∧ rest.find? key = none ∧ c.get now key = (.ok none, rest) ∧
      ∀ e, c.find? key = some e → c.isExpired now e = .ok true) ∨
      ∃ e, c.find? key = some e ∧ c.get now key = (.ok (some e), c) := by
  rw [get]
  cases hfind : c.find? key with
  | none => exact .inl ⟨c, .refl c, hfind, rfl, fun e he => by cases he⟩
  | some e =>
    obtain ⟨expired, hexp⟩ := h.isExpired_ok now (h.find?_eq_some_iff.1 hfind)
    simp only [hexp]
    cases expired with
    | true =>
      refine .inl ⟨c.erase key, c.isRest_erase key, Assoc.lookup_erase_self key c.entries, rfl, ?_⟩
      rintro _ ⟨⟩
      exact hexp
    | false => exact .inr ⟨e, rfl, rfl⟩

theorem liveEntries_ok (now : Instant) {entries : List (Text × Entry)}
    (h : ∀ k e, (k, e) ∈ entries → ∃ expired, c.isExpired now e = .ok expired) :
    ∃ live, c.liveEntries now entries = .ok live ∧ live.Sublist entries := by
  induction entries with
  | nil => exact ⟨[], rfl, .refl _⟩
  | cons pair rest ih =>
    obtain ⟨k, e⟩ := pair
    obtain ⟨expired, hexp⟩ := h k e List.mem_cons_self
    obtain ⟨live, hlive, hsub⟩ := ih fun k e hm => h k e (List.mem_cons_of_mem _ hm)
    simp only [liveEntries, hexp, hlive]
    cases expired with
    | true => exact ⟨live, rfl, hsub.cons _⟩
    | false => exact ⟨(k, e) :: live, rfl, hsub.cons_cons _⟩

/-- What storing an outcome does. -/
theorem IsSound.add_spec (h : c.IsSound) (now : Instant) (key : Text) (data : Json)
    (isError : Bool) :
    ∃ rest : MemoryCache, rest.IsRest c ∧ c.add now key data isError =
      (.ok (Entry.at now data isError), rest.put key (Entry.at now data isError)) := by
  obtain ⟨live, hlive, hsub⟩ := liveEntries_ok (c := c) now fun k e hm => h.isExpired_ok now hm
  refine ⟨{ c with entries := live }, ⟨rfl, hsub⟩, ?_⟩
  simp only [add, cleanup, hlive]
  rfl

/-- A look-up as a cycle makes it. -/
theorem IsSound.result_get (h : c.IsSound) (now : Instant) (key : Text) :
    (∃ rest, rest.IsRest c ∧ ResultCache.get c now key = (.ok none, rest)) ∨
      ∃ e, (key, e) ∈ c.entries ∧ ResultCache.get c now key = (.ok (some e.toJson), c) := by
  rcases h.get_spec now key with ⟨rest, hrest, -, hget, -⟩ | ⟨e, hfind, hget⟩
  · exact .inl ⟨rest, hrest, by simp only [ResultCache.get, hget, Option.map_none]⟩
  · refine .inr ⟨e, h.find?_eq_some_iff.1 hfind, ?_⟩
    simp only [ResultCache.get, hget, Option.map_some]

theorem IsSound.result_get_snd (h : c.IsSound) (now : Instant) (key : Text) :
    (ResultCache.get c now key).2.IsRest c := by
  rcases h.result_get now key with ⟨rest, hrest, hget⟩ | ⟨e, -, hget⟩
  · rw [hget]
    exact hrest
  · rw [hget]
    exact .refl c

theorem IsSound.rest_of_get (h : c.IsSound) {now : Instant} {key : Text}
    {found : Except Fault (Option Json)} {after : MemoryCache}
    (hget : ResultCache.get c now key = (found, after)) : after.IsRest c := by
  have hrest := h.result_get_snd now key
  rwa [hget] at hrest

theorem IsSound.result_add (h : c.IsSound) (now : Instant) (key : Text) (data : Json)
    (isError : Bool) :
    ∃ rest : MemoryCache, rest.IsRest c ∧ ResultCache.add c now key data isError =
      (.ok (Entry.at now data isError).toJson, rest.put key (Entry.at now data isError)) := by
  obtain ⟨rest, hrest, hadd⟩ := h.add_spec now key data isError
  exact ⟨rest, hrest, by simp only [ResultCache.add, hadd]⟩

theorem result_delete (key : Text) : ResultCache.delete c key = (.ok (), c.erase key) := rfl

end Operations

end QueryFence.MemoryCache
