import QueryFence.Proofs.Cache.History
import QueryFence.Proofs.Cache.Memory

/-!
The cache in memory, call by call: each leaves under a key the deposit that it should, unless that has
expired, and a look-up gives the deposit there while it is live.
-/

namespace QueryFence

namespace MemoryCache

instance : CacheUpkeep MemoryCache where
  cleanup c now := (c.cleanup now).2
  clear := clear
  reopen c := c

/-- What the cache holds under a key. -/
def HoldsUnder (key : Text) (c : MemoryCache) (d : Option Deposit) : Prop :=
  c.find? key = d.map Deposit.entry ∧ ∀ e ∈ d, e.time.IsTold

variable {c : MemoryCache} {key : Text} {ttl : Span} {now : Instant}

theorem isExpired_deposit {d : Deposit} (hd : d.time.IsTold) (c : MemoryCache) (now : Instant) :
    c.isExpired now d.entry = .ok (!d.isLive c.ttl now) := by
  rw [isExpired_stored hd rfl, Deposit.isLive, ← decide_not]
  simp only [Int.not_le]

/-- Looking up leaves the cache as it is, or drops what has expired under the key. -/
theorem get_snd (c : MemoryCache) (now : Instant) (key : Text) :
    (ResultCache.get c now key).2 = c ∨ ((ResultCache.get c now key).2 = c.erase key ∧
      ∃ e, c.find? key = some e ∧ c.isExpired now e = .ok true) := by
  cases hfind : c.find? key with
  | none => exact .inl (by simp only [ResultCache.get, get, hfind])
  | some e =>
    cases hexp : c.isExpired now e with
    | error fault => exact .inl (by simp only [ResultCache.get, get, hfind, hexp])
    | ok expired =>
      cases expired with
      | false => exact .inl (by simp only [ResultCache.get, get, hfind, hexp])
      | true => exact .inr ⟨by simp only [ResultCache.get, get, hfind, hexp], e, rfl, hexp⟩

theorem find?_erase_of_ne {other : Text} (h : key ≠ other) :
    (c.erase other).find? key = c.find? key := Assoc.lookup_erase_of_ne h c.entries

/-- A look-up keeps what is held under every key, but for what has expired. -/
theorem HoldsUnder.get_holdsLive {d : Option Deposit} (hd : c.HoldsUnder key d) (now : Instant)
    (other : Text) : HoldsLive c.ttl (HoldsUnder key (ResultCache.get c now other).2) now d := by
  rcases c.get_snd now other with hsame | ⟨herase, e, hfind, hexp⟩
  · rw [hsame]
    exact .inl hd
  · rw [herase]
    by_cases hk : key = other
    · subst hk
      rw [hd.1] at hfind
      obtain ⟨deposit, rfl, rfl⟩ := Option.map_eq_some_iff.1 hfind
      have hlive := (isExpired_deposit (hd.2 deposit rfl) c now).symm.trans hexp
      have hdead : deposit.isLive c.ttl now = false := by simpa using hlive
      refine .inr ⟨⟨Assoc.lookup_erase_self key c.entries, nofun⟩, deposit, rfl, hdead⟩
    · exact .inl ⟨(find?_erase_of_ne hk).trans hd.1, hd.2⟩

theorem mem_liveEntries {entries live : List (Text × Entry)}
    (hl : c.liveEntries now entries = .ok live) (k : Text) (e : Entry) :
    (k, e) ∈ live ↔ (k, e) ∈ entries ∧ c.isExpired now e = .ok false := by
  induction entries generalizing live with
  | nil =>
    cases hl
    exact ⟨fun hm => absurd hm List.not_mem_nil, fun hm => absurd hm.1 List.not_mem_nil⟩
  | cons pair entries ih =>
    obtain ⟨k', e'⟩ := pair
    rw [liveEntries] at hl
    split at hl
    · cases hl
    · next expired hexp =>
      split at hl
      · cases hl
      · next more hmore =>
        cases hl
        cases expired with
        | true =>
          rw [if_pos rfl, ih hmore, List.mem_cons]
          constructor
          · exact fun hm => ⟨.inr hm.1, hm.2⟩
          · rintro ⟨heq | hm, hlive⟩
            · obtain ⟨rfl, rfl⟩ := Prod.mk.inj heq
              rw [hexp] at hlive
              cases hlive
            · exact ⟨hm, hlive⟩
        | false =>
          rw [if_neg Bool.false_ne_true, List.mem_cons, List.mem_cons, ih hmore]
          constructor
          · rintro (heq | hm)
            · obtain ⟨rfl, rfl⟩ := Prod.mk.inj heq
              exact ⟨.inl rfl, hexp⟩
            · exact ⟨.inr hm.1, hm.2⟩
          · rintro ⟨heq | hm, hlive⟩
            · exact .inl heq
            · exact .inr ⟨hm, hlive⟩

theorem IsSound.cleanup_spec (h : c.IsSound) (now : Instant) :
    ∃ n rest, c.cleanup now = (.ok n, rest) ∧ rest.IsRest c ∧
      ∀ key d, c.HoldsUnder key d → rest.HoldsUnder key (d.filter (·.isLive c.ttl now)) := by
  obtain ⟨live, hlive, hsub⟩ := liveEntries_ok (c := c) now fun k e hm => h.isExpired_ok now hm
  obtain ⟨rest, hrest⟩ : ∃ rest : MemoryCache, rest = { c with entries := live } := ⟨_, rfl⟩
  have hisrest : rest.IsRest c := by
    rw [hrest]
    exact ⟨rfl, hsub⟩
  have hsound := hisrest.isSound h
  have hmem : ∀ k e, (k, e) ∈ rest.entries ↔ (k, e) ∈ c.entries ∧ c.isExpired now e = .ok false := by
    rw [hrest]
    exact mem_liveEntries hlive
  refine ⟨_, rest, by rw [cleanup, hlive, hrest], hisrest, fun key d hd => ⟨?_, fun e he => ?_⟩⟩
  · cases d with
    | none =>
      refine Option.eq_none_iff_forall_not_mem.2 fun e he => ?_
      have hm := ((hmem key e).1 (hsound.find?_eq_some_iff.1 he)).1
      rw [← h.find?_eq_some_iff, hd.1] at hm
      cases hm
    | some d =>
      have hfind := h.find?_eq_some_iff.1 hd.1
      have hexp := isExpired_deposit (hd.2 d rfl) c now
      rw [Option.filter_some]
      cases hl : d.isLive c.ttl now with
      | true =>
        rw [hl] at hexp
        exact hsound.find?_eq_some_iff.2 ((hmem _ _).2 ⟨hfind, hexp⟩)
      | false =>
        rw [hl] at hexp
        refine Option.eq_none_iff_forall_not_mem.2 fun e he => ?_
        obtain ⟨hm, hlive⟩ := (hmem key e).1 (hsound.find?_eq_some_iff.1 he)
        rw [← h.find?_eq_some_iff, hd.1] at hm
        cases hm
        rw [hexp] at hlive
        cases hlive
  · exact hd.2 e ((Option.mem_filter_iff.1 he).1)

theorem IsSound.add_eq (h : c.IsSound) (now : Instant) (key : Text) (data : Json)
    (isError : Bool) :
    ∃ rest : MemoryCache, c.add now key data isError =
        (.ok (Entry.at now data isError), rest.put key (Entry.at now data isError)) ∧
      rest.IsRest c ∧
      ∀ key d, c.HoldsUnder key d → rest.HoldsUnder key (d.filter (·.isLive c.ttl now)) := by
  obtain ⟨n, rest, hclean, hrest, hheld⟩ := h.cleanup_spec now
  refine ⟨rest, ?_, hrest, hheld⟩
  simp only [add, hclean]
  rfl

theorem find?_put_of_ne {other : Text} (h : key ≠ other) (e : Entry) :
    (c.put other e).find? key = c.find? key := Assoc.lookup_put_of_ne h e c.entries

/-- A call keeps the cache sound, and in step with the deposit under a key. -/
theorem IsSound.carryOut (h : c.IsSound) (hnow : now.IsTold) (key : Text) (call : CacheCall) :
    (call.carryOut c now).IsSound ∧ (call.carryOut c now).ttl = c.ttl ∧
      ∀ d, c.HoldsUnder key d →
        HoldsLive c.ttl (HoldsUnder key (call.carryOut c now)) now (call.effect key now d) := by
  cases call with
  | add other data isError =>
    obtain ⟨rest, hadd, hrest, hheld⟩ := h.add_eq now other data isError
    rw [CacheCall.carryOut]
    simp only [ResultCache.add, hadd]
    refine ⟨(hrest.isSound h).put hnow other rfl, hrest.ttl, fun d hd => ?_⟩
    rw [CacheCall.effect]
    split
    · next hk =>
      subst hk
      refine .inl ⟨find?_put_self rest other _, ?_⟩
      rintro _ ⟨⟩
      exact hnow
    · next hk =>
      obtain ⟨hfind, htold⟩ := hheld key d hd
      exact .of_filter ⟨(find?_put_of_ne (Ne.symm hk) _).trans hfind, htold⟩
  | get other =>
    have hrest := h.result_get_snd now other
    exact ⟨hrest.isSound h, hrest.ttl, fun d hd => hd.get_holdsLive now other⟩
  | getTime other =>
    rw [CacheCall.carryOut, ResultCache.getTime_snd]
    have hrest := h.result_get_snd now other
    exact ⟨hrest.isSound h, hrest.ttl, fun d hd => hd.get_holdsLive now other⟩
  | delete other =>
    refine ⟨(c.isRest_erase other).isSound h, rfl, fun d hd => ?_⟩
    rw [CacheCall.effect]
    split
    · next hk =>
      subst hk
      exact .inl ⟨Assoc.lookup_erase_self other c.entries,
        fun _ he => absurd he (Option.not_mem_none _)⟩
    · next hk => exact .inl ⟨(find?_erase_of_ne (Ne.symm hk)).trans hd.1, hd.2⟩
  | cleanup =>
    obtain ⟨n, rest, hclean, hrest, hheld⟩ := h.cleanup_spec now
    have hafter : CacheCall.cleanup.carryOut c now = rest := by
      change (c.cleanup now).2 = rest
      rw [hclean]
    rw [hafter]
    exact ⟨hrest.isSound h, hrest.ttl, fun d hd => .of_filter (hheld key d hd)⟩
  | clear =>
    refine ⟨isSound_empty c.ttl, rfl, fun d hd => .inl ⟨rfl, fun _ he => ?_⟩⟩
    exact absurd he (Option.not_mem_none _)
  | reopen => exact ⟨h, rfl, fun d hd => .inl hd⟩

/-- A sound cache with a deposit or none under a key. -/
def KeepsUnder (ttl : Span) (key : Text) (c : MemoryCache) (d : Option Deposit) : Prop :=
  c.ttl = ttl ∧ c.IsSound ∧ c.HoldsUnder key d

theorem keepsUnder_empty (ttl : Span) (key : Text) : KeepsUnder ttl key (empty ttl) none :=
  ⟨rfl, isSound_empty ttl, rfl, nofun⟩

theorem KeepsUnder.carryOut {d : Option Deposit} (h : KeepsUnder ttl key c d) (hnow : now.IsTold)
    (call : CacheCall) :
    HoldsLive ttl (KeepsUnder ttl key (call.carryOut c now)) now (call.effect key now d) := by
  obtain ⟨rfl, hsound, hd⟩ := h
  obtain ⟨hsound', httl, hheld⟩ := hsound.carryOut hnow key call
  exact (hheld d hd).imp fun d hd => ⟨httl, hsound', hd⟩

theorem HoldsUnder.get_fst {d : Option Deposit} (h : c.HoldsUnder key d) (now : Instant) :
    (ResultCache.get c now key).1 =
      .ok ((d.filter (·.isLive c.ttl now)).map (·.entry.toJson)) := by
  cases d with
  | none =>
    have hfind : c.find? key = none := h.1
    simp only [ResultCache.get, get, hfind]
    rfl
  | some d =>
    have hfind : c.find? key = some d.entry := h.1
    have hexp := isExpired_deposit (h.2 d rfl) c now
    rw [Option.filter_some]
    cases hl : d.isLive c.ttl now with
    | true =>
      rw [hl] at hexp
      simp only [ResultCache.get, get, hfind, hexp, Bool.not_true]
      rfl
    | false =>
      rw [hl] at hexp
      simp only [ResultCache.get, get, hfind, hexp, Bool.not_false]
      rfl

end MemoryCache

end QueryFence
