import QueryFence.Proofs.Cache.MemoryCalls
import QueryFence.Proofs.Cycle

/-!
Caches that cannot be told apart by what cycles ask of them from an instant on. A look-up may remove what
has expired, and nobody notices: the cache answers later look-ups as if it had not been asked.
-/

namespace QueryFence

/-- The calls that cycles make. -/
def CacheCall.IsOfCycle : CacheCall → Prop
  | .add _ _ _ | .get _ | .getTime _ | .delete _ => True
  | .cleanup | .clear | .reopen => False

section Answers

variable {σ : Type} [ResultCache σ] [CacheUpkeep σ] {a b : σ} {now since : Instant}

/-- From an instant on two caches answer every look-up alike, whatever calls of cycles come before it, as
long as the clock does not go back. -/
def AnswersAlike (since : Instant) (a b : σ) : Prop :=
  ∀ (calls : CacheHistory) (now : Instant) (key : Text), (∀ call ∈ calls, call.2.IsOfCycle) →
    (since :: (calls.map Prod.fst ++ [now])).Pairwise (·.micros ≤ ·.micros) →
    (ResultCache.get (calls.carryOut a) now key).1 = (ResultCache.get (calls.carryOut b) now key).1 ∧
      (ResultCache.getTime (calls.carryOut a) now key).1 =
        (ResultCache.getTime (calls.carryOut b) now key).1

/-- A relation of two caches that every call of a cycle keeps, and under which look-ups are answered
alike. -/
structure KeepsInStep (R : Instant → σ → σ → Prop) : Prop where
  later : ∀ {now later a b}, R now a b → now.micros ≤ later.micros → R later a b
  get_fst : ∀ {now a b} (key : Text), R now a b →
    (ResultCache.get a now key).1 = (ResultCache.get b now key).1
  get_snd : ∀ {now a b} (key : Text), R now a b →
    R now (ResultCache.get a now key).2 (ResultCache.get b now key).2
  add_snd : ∀ {now a b} (key : Text) (data : Json) (isError : Bool), R now a b →
    R now (ResultCache.add a now key data isError).2 (ResultCache.add b now key data isError).2
  delete_snd : ∀ {now a b} (key : Text), R now a b →
    R now (ResultCache.delete a key).2 (ResultCache.delete b key).2

variable {R : Instant → σ → σ → Prop}

theorem KeepsInStep.carryOut (hR : KeepsInStep R) {call : CacheCall} (hc : call.IsOfCycle)
    (h : R now a b) : R now (call.carryOut a now) (call.carryOut b now) := by
  cases call with
  | add key data isError => exact hR.add_snd key data isError h
  | get key => exact hR.get_snd key h
  | getTime key =>
    rw [CacheCall.carryOut, CacheCall.carryOut, ResultCache.getTime_snd, ResultCache.getTime_snd]
    exact hR.get_snd key h
  | delete key => exact hR.delete_snd key h
  | cleanup | clear | reopen => exact hc.elim

theorem KeepsInStep.answersAlike (hR : KeepsInStep R) (h : R since a b) :
    AnswersAlike since a b := by
  intro calls now key hcalls hclock
  have hrel : R now (calls.carryOut a) (calls.carryOut b) := by
    induction calls generalizing since a b with
    | nil => exact hR.later h ((List.pairwise_cons.1 hclock).1 now List.mem_cons_self)
    | cons call calls ih =>
      obtain ⟨hfirst, hrest⟩ := List.pairwise_cons.1 hclock
      have hnow := hR.later h (hfirst call.1 List.mem_cons_self)
      exact ih (hR.carryOut (hcalls call List.mem_cons_self) hnow)
        (fun other hm => hcalls other (List.mem_cons_of_mem call hm)) hrest
  have hget := hR.get_fst key hrel
  exact ⟨hget, by rw [Cycle.getTime_fst_eq, Cycle.getTime_fst_eq, hget]⟩

theorem AnswersAlike.refl (since : Instant) (c : σ) : AnswersAlike since c c :=
  fun _ _ _ _ _ => ⟨rfl, rfl⟩

theorem AnswersAlike.of_le (h : AnswersAlike since a b) (hle : since.micros ≤ now.micros) :
    AnswersAlike now a b := by
  intro calls later key hcalls hclock
  obtain ⟨hfirst, hrest⟩ := List.pairwise_cons.1 hclock
  exact h calls later key hcalls
    (List.pairwise_cons.2 ⟨fun t ht => Int.le_trans hle (hfirst t ht), hrest⟩)

/-- Something that every call of a cycle keeps of a cache. -/
structure KeptByCalls (Sound : σ → Prop) : Prop where
  get : ∀ {c : σ} (now : Instant) (key : Text), Sound c → Sound (ResultCache.get c now key).2
  add : ∀ {c : σ} (now : Instant) (key : Text) (data : Json) (isError : Bool), Sound c →
    Sound (ResultCache.add c now key data isError).2
  delete : ∀ {c : σ} (key : Text), Sound c → Sound (ResultCache.delete c key).2

/-- A look-up in a sound cache cannot be told from none. -/
structure GoesUnnoticed (Sound : σ → Prop) : Prop extends KeptByCalls Sound where
  get_alike : ∀ {c : σ} (now : Instant) (key : Text), Sound c →
    AnswersAlike now (ResultCache.get c now key).2 c

end Answers

namespace MemoryCache

variable {c shed : MemoryCache} {now : Instant} {key : Text} {kept : Text → Bool}

/-- A cache without the outcomes under some keys. -/
def keep (c : MemoryCache) (kept : Text → Bool) : MemoryCache :=
  { c with entries := c.entries.filter fun pair => kept pair.1 }

theorem isExpired_keep (now : Instant) (e : Entry) :
    (c.keep kept).isExpired now e = c.isExpired now e := rfl

theorem find?_keep (c : MemoryCache) (kept : Text → Bool) (key : Text) :
    (c.keep kept).find? key = if kept key then c.find? key else none := by
  rw [find?, find?, keep]
  induction c.entries with
  | nil => exact (ite_self _).symm
  | cons pair rest ih =>
    obtain ⟨k, e⟩ := pair
    rw [List.filter_cons, List.lookup_cons]
    by_cases hk : key = k
    · subst hk
      cases hkept : kept key <;> simp [hkept, ih]
    · have hne : (key == k) = false := beq_eq_false_iff_ne.2 hk
      cases kept k <;> simp [ih, hne, List.lookup_cons]

theorem erase_keep (c : MemoryCache) (kept : Text → Bool) (key : Text) :
    (c.keep kept).erase key = (c.erase key).keep kept := by
  simp only [MemoryCache.erase, keep, Assoc.erase]
  rw [List.filter_comm]

theorem erase_keep_self (hkept : kept key = false) : (c.erase key).keep kept = c.keep kept := by
  have hnone : (c.keep kept).find? key = none := by
    rw [find?_keep, hkept, if_neg Bool.false_ne_true]
  rw [← erase_keep, MemoryCache.erase, Assoc.erase_eq_self hnone]

/-- One cache is another one without outcomes that have expired. -/
def Sheds (now : Instant) (shed c : MemoryCache) : Prop :=
  ∃ kept : Text → Bool, shed = c.keep kept ∧
    ∀ pair ∈ c.entries, kept pair.1 = false → c.isExpired now pair.2 = .ok true

theorem sheds_refl (now : Instant) (c : MemoryCache) : Sheds now c c := by
  refine ⟨fun _ => true, ?_, fun _ _ h => Bool.noConfusion h⟩
  rw [keep, List.filter_eq_self.2 fun _ _ => rfl]

theorem isExpired_of_le {later : Instant} {e : Entry} (h : c.isExpired now e = .ok true)
    (hle : now.micros ≤ later.micros) : c.isExpired later e = .ok true := by
  rw [isExpired] at h ⊢
  split at h
  · cases h
  · split at h
    · cases h
    · next hoffset =>
      have hlong := of_decide_eq_true (Except.ok.inj h)
      rw [if_neg hoffset]
      exact congrArg Except.ok (decide_eq_true (by omega))

theorem Sheds.of_le {later : Instant} (h : Sheds now shed c) (hle : now.micros ≤ later.micros) :
    Sheds later shed c := by
  obtain ⟨kept, hshed, hexp⟩ := h
  exact ⟨kept, hshed, fun pair hm hk => isExpired_of_le (hexp pair hm hk) hle⟩

theorem Sheds.erase (h : Sheds now shed c) (key : Text) : Sheds now (shed.erase key) (c.erase key) := by
  obtain ⟨kept, rfl, hexp⟩ := h
  refine ⟨kept, erase_keep c kept key, fun pair hm hk => ?_⟩
  exact hexp pair ((Assoc.erase_sublist _ _).subset hm) hk

/-- A look-up finds the same where expired outcomes were shed, and sheds no others. -/
theorem Sheds.get (h : Sheds now shed c) (key : Text) :
    (ResultCache.get shed now key).1 = (ResultCache.get c now key).1 ∧
      Sheds now (ResultCache.get shed now key).2 (ResultCache.get c now key).2 := by
  have hself := h
  obtain ⟨kept, rfl, hexp⟩ := h
  have hfind := find?_keep c kept key
  cases hkept : kept key with
  | true =>
    rw [hkept, if_pos rfl] at hfind
    simp only [ResultCache.get, MemoryCache.get, hfind, isExpired_keep]
    cases c.find? key with
    | none => exact ⟨rfl, hself⟩
    | some e =>
      dsimp only
      cases c.isExpired now e with
      | error fault => exact ⟨rfl, hself⟩
      | ok expired =>
        cases expired with
        | false => exact ⟨rfl, hself⟩
        | true => exact ⟨rfl, hself.erase key⟩
  | false =>
    rw [hkept, if_neg Bool.false_ne_true] at hfind
    have hshed : ResultCache.get (c.keep kept) now key = (.ok none, c.keep kept) := by
      simp only [ResultCache.get, MemoryCache.get, hfind, Option.map_none]
    rw [hshed]
    cases hold : c.find? key with
    | none =>
      simp only [ResultCache.get, MemoryCache.get, hold]
      exact ⟨rfl, hself⟩
    | some e =>
      have hover := hexp _ (Assoc.mem_of_lookup_eq_some hold) hkept
      have hget : ResultCache.get c now key = (.ok none, c.erase key) := by
        simp only [ResultCache.get, MemoryCache.get, hold, hover, Option.map_none]
      have herase := hself.erase key
      rw [erase_keep, erase_keep_self hkept] at herase
      rw [hget]
      exact ⟨rfl, herase⟩

theorem liveEntries_keep (now : Instant) {entries : List (Text × Entry)}
    (h : ∀ pair ∈ entries, kept pair.1 = false → c.isExpired now pair.2 = .ok true) :
    (c.keep kept).liveEntries now (entries.filter fun pair => kept pair.1) =
      c.liveEntries now entries := by
  induction entries with
  | nil => rfl
  | cons pair rest ih =>
    obtain ⟨k, e⟩ := pair
    have hrest := ih fun other hm => h other (List.mem_cons_of_mem _ hm)
    rw [List.filter_cons]
    cases hkept : kept k with
    | true => simp only [if_true, liveEntries, isExpired_keep, hrest]
    | false =>
      simp only [Bool.false_eq_true, if_false, liveEntries, hrest,
        h _ List.mem_cons_self hkept]
      cases c.liveEntries now rest <;> rfl

/-- Storing drops what has expired, so that afterwards nothing is shed any more. -/
theorem Sheds.add (h : Sheds now shed c) (key : Text) (data : Json) (isError : Bool) :
    Sheds now (ResultCache.add shed now key data isError).2
      (ResultCache.add c now key data isError).2 := by
  have hself := h
  obtain ⟨kept, rfl, hexp⟩ := h
  have hlive : (c.keep kept).liveEntries now (c.keep kept).entries = c.liveEntries now c.entries :=
    liveEntries_keep now hexp
  simp only [ResultCache.add, MemoryCache.add, cleanup, hlive]
  cases c.liveEntries now c.entries with
  | error fault => exact hself
  | ok live => exact sheds_refl now _

theorem keepsInStep_sheds : KeepsInStep Sheds where
  later h hle := h.of_le hle
  get_fst key h := (h.get key).1
  get_snd key h := (h.get key).2
  add_snd key data isError h := h.add key data isError
  delete_snd key h := h.erase key

/-- Only an outcome that has expired is removed by a look-up. -/
theorem sheds_get (h : Assoc.HasDistinctKeys c.entries) (now : Instant) (key : Text) :
    Sheds now (ResultCache.get c now key).2 c := by
  rcases c.get_snd now key with hsame | ⟨herase, e, hfind, hexp⟩
  · rw [hsame]
    exact sheds_refl now c
  · rw [herase]
    refine ⟨fun k => !decide (k = key), rfl, fun pair hm hk => ?_⟩
    obtain ⟨k, e'⟩ := pair
    obtain rfl : k = key := by simpa using hk
    obtain rfl := Option.some.inj (hfind.symm.trans (h.lookup_eq_some hm))
    exact hexp

theorem liveEntries_sublist {entries live : List (Text × Entry)}
    (h : c.liveEntries now entries = .ok live) : live.Sublist entries := by
  induction entries generalizing live with
  | nil =>
    cases h
    exact .refl _
  | cons pair rest ih =>
    obtain ⟨k, e⟩ := pair
    rw [liveEntries] at h
    split at h
    · cases h
    · next expired hexp =>
      split at h
      · cases h
      · next more hmore =>
        cases h
        cases expired with
        | true => exact (ih hmore).cons _
        | false => exact (ih hmore).cons_cons _

/-- Look-ups of a cache in memory go unnoticed, whatever it holds. -/
theorem goesUnnoticed : GoesUnnoticed fun c : MemoryCache => Assoc.HasDistinctKeys c.entries where
  get := by
    intro c now key h
    rcases c.get_snd now key with hsame | ⟨herase, -⟩
    · rw [hsame]
      exact h
    · rw [herase]
      exact h.sublist (Assoc.erase_sublist key c.entries)
  add := by
    intro c now key data isError h
    simp only [ResultCache.add, MemoryCache.add, cleanup]
    cases hlive : c.liveEntries now c.entries with
    | error fault => exact h
    | ok live => exact (h.sublist (liveEntries_sublist hlive)).put
  delete key h := h.sublist (Assoc.erase_sublist key _)
  get_alike now key h := keepsInStep_sheds.answersAlike (sheds_get h now key)

end MemoryCache

end QueryFence
