import QueryFence.Proofs.Cache.MemoryCalls
import QueryFence.Proofs.Rounds.Sharing

/-!
Blocks that share a cache in memory. Whatever it held at first, looking up and cleaning up take nothing
away that a look-up would find at that instant, and storing puts the new outcome there.
-/

namespace QueryFence.MemoryCache

open QueryFence.Cycle QueryFence.Traffic

variable {a b c : MemoryCache} {now : Instant} {key : Text}

theorem get_fst_congr (httl : a.ttl = b.ttl) (hfind : a.find? key = b.find? key) :
    (ResultCache.get a now key).1 = (ResultCache.get b now key).1 := by
  have hexp : ∀ e, a.isExpired now e = b.isExpired now e := by
    intro e
    simp only [isExpired, httl]
  simp only [ResultCache.get, get, hfind]
  cases b.find? key with
  | none => rfl
  | some e =>
    simp only [hexp]
    rcases b.isExpired now e with fault | _ | _ <;> rfl

theorem get_fst_of_none (h : c.find? key = none) : (ResultCache.get c now key).1 = .ok none := by
  simp only [ResultCache.get, get, h]
  rfl

theorem get_fst_of_some {e : Entry} {expired : Bool} (h : c.find? key = some e)
    (hexp : c.isExpired now e = .ok expired) :
    (ResultCache.get c now key).1 = .ok (if expired then none else some e.toJson) := by
  simp only [ResultCache.get, get, h, hexp]
  cases expired <;> rfl

/-- Looking up changes nothing that a look-up finds. -/
theorem get_get_fst (c : MemoryCache) (now : Instant) (key other : Text) :
    (ResultCache.get (ResultCache.get c now key).2 now other).1 =
      (ResultCache.get c now other).1 := by
  rcases c.get_snd now key with hsame | ⟨herase, e, hfind, hexp⟩
  · rw [hsame]
  · rw [herase]
    by_cases hk : other = key
    · subst hk
      have hgone : (c.erase other).find? other = none := Assoc.lookup_erase_self other c.entries
      rw [get_fst_of_some hfind hexp, get_fst_of_none hgone]
      rfl
    · exact get_fst_congr rfl (find?_erase_of_ne hk)

theorem isExpired_of_liveEntries {entries live : List (Text × Entry)}
    (h : c.liveEntries now entries = .ok live) {k : Text} {e : Entry} (hm : (k, e) ∈ entries) :
    ∃ expired, c.isExpired now e = .ok expired := by
  induction entries generalizing live with
  | nil => exact absurd hm List.not_mem_nil
  | cons pair entries ih =>
    obtain ⟨k', e'⟩ := pair
    rw [liveEntries] at h
    split at h
    · cases h
    · next expired hexp =>
      split at h
      · cases h
      · next more hmore =>
        rcases List.mem_cons.1 hm with heq | hm
        · obtain ⟨rfl, rfl⟩ := Prod.mk.inj heq
          exact ⟨expired, hexp⟩
        · exact ih hmore hm

/-- Cleaning up changes nothing that a look-up finds. -/
theorem get_fst_liveEntries (hkeys : Assoc.HasDistinctKeys c.entries)
    {live : List (Text × Entry)} (hlive : c.liveEntries now c.entries = .ok live)
    (hsub : live.Sublist c.entries) (key : Text) :
    (ResultCache.get { c with entries := live } now key).1 = (ResultCache.get c now key).1 := by
  have hmem := mem_liveEntries hlive key
  have hfound : ∀ e, ({ c with entries := live } : MemoryCache).find? key = some e ↔
      c.find? key = some e ∧ c.isExpired now e = .ok false := by
    intro e
    constructor
    · intro h
      obtain ⟨hm, hexp⟩ := (hmem e).1 (Assoc.mem_of_lookup_eq_some h)
      exact ⟨hkeys.lookup_eq_some hm, hexp⟩
    · rintro ⟨h, hexp⟩
      exact (hkeys.sublist hsub).lookup_eq_some
        ((hmem e).2 ⟨Assoc.mem_of_lookup_eq_some h, hexp⟩)
  cases hfind : c.find? key with
  | none =>
    rw [get_fst_of_none hfind]
    apply get_fst_of_none
    rw [Option.eq_none_iff_forall_not_mem]
    intro e he
    cases hfind.symm.trans ((hfound e).1 he).1
  | some e =>
    obtain ⟨expired, hexp⟩ := isExpired_of_liveEntries hlive (Assoc.mem_of_lookup_eq_some hfind)
    rw [get_fst_of_some hfind hexp]
    cases expired with
    | false => exact get_fst_of_some ((hfound e).2 ⟨hfind, hexp⟩) hexp
    | true =>
      apply get_fst_of_none
      rw [Option.eq_none_iff_forall_not_mem]
      intro e' he
      obtain ⟨hfind', hexp'⟩ := (hfound e').1 he
      rw [Option.some.inj (hfind'.symm.trans hfind), hexp] at hexp'
      cases hexp'

/-- Storing is possible where the time of every entry can be told, and changes what is found under its
own key only. -/
theorem add_spec (hkeys : Assoc.HasDistinctKeys c.entries)
    (htimes : ∀ k e, (k, e) ∈ c.entries → ∃ expired, c.isExpired now e = .ok expired) (key : Text)
    (data : Json) (isError : Bool) :
    ∃ rest : MemoryCache, ResultCache.add c now key data isError =
        (.ok (Entry.at now data isError).toJson, rest.put key (Entry.at now data isError)) ∧
      rest.IsRest c ∧
      ∀ other, (ResultCache.get rest now other).1 = (ResultCache.get c now other).1 := by
  obtain ⟨live, hlive, hsub⟩ := liveEntries_ok now htimes
  refine ⟨{ c with entries := live }, ?_, ⟨rfl, hsub⟩, get_fst_liveEntries hkeys hlive hsub⟩
  simp only [ResultCache.add, add, cleanup, hlive]
  rfl

theorem isExpired_of_add {data : Json} {isError : Bool} {record : Json}
    (h : (ResultCache.add c now key data isError).1 = .ok record) {k : Text} {e : Entry}
    (hm : (k, e) ∈ c.entries) : ∃ expired, c.isExpired now e = .ok expired := by
  simp only [ResultCache.add, add, cleanup] at h
  cases hlive : c.liveEntries now c.entries with
  | error fault =>
    rw [hlive] at h
    cases h
  | ok live => exact isExpired_of_liveEntries hlive hm

/-- Where an outcome could be stored behind a look-up that found nothing, the time of every entry can be
told. -/
theorem isExpired_of_get_add {data : Json} {isError : Bool} {record : Json}
    (hget : (ResultCache.get c now key).1 = .ok none)
    (hadd : (ResultCache.add (ResultCache.get c now key).2 now key data isError).1 = .ok record)
    (hkeys : Assoc.HasDistinctKeys c.entries) {k : Text} {e : Entry} (hm : (k, e) ∈ c.entries) :
    ∃ expired, c.isExpired now e = .ok expired := by
  rcases c.get_snd now key with hsame | ⟨herase, e', hfind, hexp⟩
  · rw [hsame] at hadd
    exact isExpired_of_add hadd hm
  · by_cases hk : k = key
    · subst hk
      rw [Option.some.inj ((hkeys.lookup_eq_some hm).symm.trans hfind)]
      exact ⟨true, hexp⟩
    · rw [herase] at hadd
      have hleft : (k, e) ∈ (c.erase key).entries :=
        List.mem_filter.2 ⟨hm, by simpa using hk⟩
      exact isExpired_of_add hadd hleft

/-- A cache in memory after some of its entries were dropped and others were stored at an instant. -/
structure IsLater (now : Instant) (first c : MemoryCache) : Prop where
  ttl : c.ttl = first.ttl
  keys : Assoc.HasDistinctKeys c.entries
  entries : ∀ k e, (k, e) ∈ c.entries → (k, e) ∈ first.entries ∨ e.time = now.isoText

theorem IsLater.get (h : IsLater now a c) (key : Text) :
    IsLater now a (ResultCache.get c now key).2 := by
  rcases c.get_snd now key with hsame | ⟨herase, -⟩
  · rwa [hsame]
  · rw [herase]
    constructor
    · exact h.ttl
    · exact h.keys.sublist (Assoc.erase_sublist _ _)
    · intro k e hm
      exact h.entries k e ((Assoc.erase_sublist _ _).subset hm)

theorem IsLater.put (h : IsLater now a c) (key : Text) (data : Json) (isError : Bool) :
    IsLater now a (c.put key (Entry.at now data isError)) := by
  constructor
  · exact h.ttl
  · exact h.keys.put
  · intro k e hm
    rcases Assoc.mem_of_mem_put h.keys hm with ⟨-, rfl⟩ | ⟨-, hold⟩
    · exact .inr rfl
    · exact h.entries k e hold

theorem IsLater.rest (h : IsLater now a c) (hrest : b.IsRest c) : IsLater now a b :=
  ⟨hrest.ttl.trans h.ttl, h.keys.sublist hrest.entries,
    fun k e hm => h.entries k e (hrest.entries.subset hm)⟩

theorem get_put_self (hnow : now.IsTold) (key : Text) (data : Json) (isError : Bool) :
    (ResultCache.get (c.put key (Entry.at now data isError)) now key).1 =
      .ok (if decide (0 ≤ c.ttl.micros) then some (Entry.at now data isError).toJson else none) := by
  have hexp := isExpired_stored (c := c.put key (Entry.at now data isError)) hnow
    (e := Entry.at now data isError) rfl now
  rw [get_fst_of_some (find?_put_self c key _) hexp, Int.sub_self]
  have httl : (c.put key (Entry.at now data isError)).ttl = c.ttl := rfl
  rw [httl]
  by_cases hneg : c.ttl.micros < 0
  · simp only [hneg, Int.not_le.2 hneg, decide_true, decide_false, if_true, Bool.false_eq_true,
      if_false]
  · simp only [hneg, Int.not_lt.1 hneg, decide_true, decide_false, if_true, Bool.false_eq_true,
      if_false]

theorem get_put_of_ne {other : Text} (h : other ≠ key) (e : Entry) :
    (ResultCache.get (c.put key e) now other).1 = (ResultCache.get c now other).1 :=
  get_fst_congr rfl (find?_put_of_ne h e)

/-- Blocks may share a cache in memory, whatever it holds. -/
def sharing (first : MemoryCache) (hkeys : Assoc.HasDistinctKeys first.entries) (hnow : now.IsTold)
    {known : Spec → Prop} {answer : Spec → Except SearchFailure Json}
    (hown : ∀ x y, known x → known y → x.cacheKey = y.cacheKey → answer x = answer y) :
    Sharing MemoryCache now known answer first where
  Reached c := IsLater now first c ∧ ∀ spec, known spec →
    IsFoundAs (decide (0 ≤ first.ttl.micros)) (entryOf now (answer spec))
      (ResultCache.get first now spec.cacheKey).1 (ResultCache.get c now spec.cacheKey).1
  lasts := decide (0 ≤ first.ttl.micros)
  initial := ⟨⟨rfl, hkeys, fun _ _ hm => .inl hm⟩, fun _ _ => .inl rfl⟩
  found hc hk := hc.2 _ hk
  get {c spec} hc hk := by
    refine ⟨⟨hc.1.get spec.cacheKey, fun other ho => ?_⟩, get_get_fst c now _ _⟩
    rw [get_get_fst]
    exact hc.2 other ho
  add {c spec} hc hk hnone hadd := by
    obtain ⟨record, hadd⟩ := hadd
    -- the clean-up before storing tells the time of every entry, also under keys of no block here
    have htimes : ∀ k e, (k, e) ∈ c.entries → ∃ expired, c.isExpired now e = .ok expired := by
      intro k e hm
      rcases hc.1.entries k e hm with hold | hnew
      · obtain ⟨expired, hexp⟩ := isExpired_of_get_add hnone hadd hkeys hold
        refine ⟨expired, Eq.trans ?_ hexp⟩
        simp only [isExpired, hc.1.ttl]
      · exact ⟨_, isExpired_stored hnow hnew now⟩
    obtain ⟨rest, hrun, hrest, hsame⟩ := add_spec hc.1.keys htimes spec.cacheKey
      (recorded (answer spec)).1 (recorded (answer spec)).2
    have hself := get_put_self (c := rest) hnow spec.cacheKey (recorded (answer spec)).1
      (recorded (answer spec)).2
    rw [hrest.ttl, hc.1.ttl] at hself
    refine ⟨_, hrun, ⟨(hc.1.rest hrest).put _ _ _, fun other ho => ?_⟩, hself⟩
    by_cases heq : other.cacheKey = spec.cacheKey
    · rw [heq, hself, hown other spec ho hk heq]
      exact isFoundAs_stored hnone _ _
    · rw [get_put_of_ne heq, hsame]
      exact hc.2 other ho

end QueryFence.MemoryCache
