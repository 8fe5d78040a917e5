import Mathlib
import QueryFence.Proofs.Cache.Recall
import QueryFence.Proofs.Rounds.Passing
import QueryFence.Proofs.Traffic.Provenance

/-!
A block whose answer is in the cache, and the same block on a cache that is blank: it comes to the same
end with the same output, whichever way it gets the answer.
-/

namespace QueryFence

open QueryFence.Cycle QueryFence.Traffic

/-- How a cycle ends that shows an answer. -/
def Outcome.ofAnswer (spec : Spec) : Except SearchFailure Json → Outcome
  | .ok results => .rendered spec results
  | .error failure => .failed (some spec) (.text failure.message)

/-- The deposit that an answer is stored as. -/
def Deposit.ofAnswer (time : Instant) (answer : Except SearchFailure Json) : Deposit :=
  ⟨(recorded answer).1, (recorded answer).2, time⟩

section Cycles

variable {σ : Type} {hub : Hub} {now : Instant} {spec : Spec} {answer : Except SearchFailure Json}

/-- A cycle that delivers an answer ends with it, or shows nothing. -/
theorem Cycle.Delivers.result_eq {data : Json} {isError : Bool} {s : Scene σ}
    {r : Except Fault Outcome × Scene σ} (h : Delivers hub spec data isError s r)
    (ha : (data, isError) = recorded answer) :
    r.1 = (Cycle.shown r).map fun _ => Outcome.ofAnswer spec answer := by
  cases answer with
  | ok results =>
    obtain ⟨rfl, rfl⟩ := Prod.mk.inj ha
    cases h with
    | error herror => cases herror
    | results _ _ => rfl
    | fault _ => rfl
  | error failure =>
    obtain ⟨rfl, rfl⟩ := Prod.mk.inj ha
    cases h with
    | error _ => rfl
    | results herror _ => cases herror
    | fault herror => cases herror

variable [ResultCache σ]

/-- A cycle that finds an answer in the cache shows it and ends with it. -/
theorem Cycle.start_of_recalled {source : Text} (hread : Spec.read hub.settings source = .ok spec)
    {ttl : Span} {cache : σ} {time : Instant}
    (hrecalls : Recalls ttl cache spec.cacheKey (.ofAnswer time answer))
    (hlive : (Deposit.ofAnswer time answer).isLive ttl now = true) :
    ∃ r : Except Fault Outcome × Scene σ,
      (start hub now source).run.run ⟨Display.blank, cache⟩ = (r.1.map .finished, r.2) ∧
      Cycle.shown r =
        textOfAnswer hub spec answer (.ok (some (Deposit.ofAnswer time answer).entry.toJson)) ∧
      r.1 = (Cycle.shown r).map fun _ => Outcome.ofAnswer spec answer := by
  have hget := hrecalls now hlive
  refine ⟨(showStored hub now spec (Deposit.ofAnswer time answer).entry.toJson).run.run
    ⟨Display.blank, cache⟩, start_of_found hread hget rfl, ?_, ?_⟩
  · rw [shown_showStored hub now spec _ rfl, hget]
    exact textOfRecord_entryOf time answer _
  · exact (delivers_stored (Deposit.ofAnswer time answer).entry rfl).result_eq rfl

/-- A cycle that stores an answer shows it as it is then found, and ends with it. -/
theorem Cycle.resume_of_storesFor {p : Pending} (houtcome : IsSearchOutcome answer) {s : Scene σ}
    (hopen : s.display.closed = false) {ttl : Span} (httl : 0 ≤ ttl.micros)
    (hstores : StoresFor ttl s.cache p.spec.cacheKey (.ofAnswer now answer)) :
    Cycle.shown ((resume hub now p answer).run.run s) = textOfAnswer hub p.spec answer
        (.ok (some (Deposit.ofAnswer now answer).entry.toJson)) ∧
      ((resume hub now p answer).run.run s).1 =
        (Cycle.shown ((resume hub now p answer).run.run s)).map
          (fun _ => Outcome.ofAnswer p.spec answer) ∧
      Recalls ttl ((resume hub now p answer).run.run s).2.cache p.spec.cacheKey
        (.ofAnswer now answer) := by
  obtain ⟨after, hstored, hrecalls⟩ := hstores
  have hadd : ResultCache.add s.cache now p.spec.cacheKey (recorded answer).1 (recorded answer).2 =
    (.ok (entryOf now answer).toJson, after) := hstored
  have hlive : (Deposit.ofAnswer now answer).isLive ttl now = true := by
    simpa only [Deposit.isLive, Deposit.ofAnswer, Int.sub_self, decide_eq_true_eq] using httl
  have hget := hrecalls now hlive
  refine ⟨?_, ?_, ?_⟩
  · rw [shown_resume houtcome hopen hadd, hget]
  · exact (delivers_answer houtcome hopen (e := entryOf now answer) rfl hadd).result_eq rfl
  · rcases isLookedUp_resume hub houtcome (e := entryOf now answer) rfl hadd with hsame | hlooked
    · rw [hsame]
      exact hrecalls
    · rw [hlooked, hget]
      exact hrecalls

end Cycles

namespace BlockRun

variable {σ : Type} [ResultCache σ]

/-- What a search of a service is answered with. -/
def answerOf {ε : Type} (service : Service ε) (hub : Hub) (spec : Spec) (world : ε) :
    Except SearchFailure Json :=
  ((service.search spec.query (effectiveLimit hub spec)).run service.answer world).1

/-- On a cache that has its answer a block asks for no search, and ends as it does on a blank cache
where a search gives the same answer at the given time. -/
structure IsRecalledAsFetched (hub : Hub) (source : Text) (spec : Spec) (cache blank : σ)
    (fetched later : Instant) (answer : Except SearchFailure Json) : Prop where
  asks_nothing : ∀ p s,
    (start hub later source).run.run ⟨Display.blank, cache⟩ ≠ (.ok (.searching p), s)
  same : ∀ {ε ε' : Type} (service : Service ε) (service' : Service ε') (world : ε) (world' : ε')
    (latest begun : Instant), answerOf service' hub spec world' = answer →
    let hit := between service hub later latest source cache world
    let miss := between service' hub begun fetched source blank world'
    hit.world = world ∧ hit.result = miss.result ∧ hit.shown = miss.shown

variable {ε : Type} {service : Service ε} {hub : Hub} {source : Text} {spec : Spec}
  {cache blank : σ} {begun fetched later : Instant} {answer : Except SearchFailure Json} {ttl : Span}
  {world : ε}

/-- A block whose search is answered shows the answer, and leaves it in the cache. -/
theorem between_of_storesFor (hread : Spec.read hub.settings source = .ok spec)
    (hmissing : (ResultCache.get cache begun spec.cacheKey).1 = .ok none)
    (hanswer : answerOf service hub spec world = answer) (houtcome : IsSearchOutcome answer)
    (httl : 0 ≤ ttl.micros)
    (hstores : StoresFor ttl (ResultCache.get cache begun spec.cacheKey).2 spec.cacheKey
      (.ofAnswer fetched answer)) :
    (between service hub begun fetched source cache world).shown = textOfAnswer hub spec answer
        (.ok (some (Deposit.ofAnswer fetched answer).entry.toJson)) ∧
      (between service hub begun fetched source cache world).result =
        (between service hub begun fetched source cache world).shown.map
          (fun _ => Outcome.ofAnswer spec answer) ∧
      Recalls ttl (between service hub begun fetched source cache world).scene.cache spec.cacheKey
        (.ofAnswer fetched answer) := by
  subst hanswer
  have hget : ResultCache.get cache begun spec.cacheKey =
      (.ok none, (ResultCache.get cache begun spec.cacheKey).2) := Prod.ext hmissing rfl
  rw [between_of_searching (start_of_missing hread hget) rfl]
  exact resume_of_storesFor (p := ⟨spec, effectiveLimit hub spec⟩)
    (s := ⟨Display.blank.put .loading loadingText, _⟩) houtcome rfl httl hstores

/-- A block that finds the answer stored for it, compared with the search on a blank cache. -/
theorem isRecalledAsFetched (hread : Spec.read hub.settings source = .ok spec)
    (houtcome : IsSearchOutcome answer)
    (hrecalls : Recalls ttl cache spec.cacheKey (.ofAnswer fetched answer))
    (httl : 0 ≤ ttl.micros) (hlater : later.micros - fetched.micros ≤ ttl.micros)
    (hblank : ∀ begun, (ResultCache.get blank begun spec.cacheKey).1 = .ok none ∧
      StoresFor ttl (ResultCache.get blank begun spec.cacheKey).2 spec.cacheKey
        (.ofAnswer fetched answer)) :
    IsRecalledAsFetched hub source spec cache blank fetched later answer := by
  have hlive : (Deposit.ofAnswer fetched answer).isLive ttl later = true := decide_eq_true hlater
  obtain ⟨⟨result, s⟩, hstart, hshown, hresult⟩ := start_of_recalled hread hrecalls hlive
  constructor
  · intro p s' hp
    rw [hstart] at hp
    cases result with
    | ok outcome => cases hp
    | error fault => cases hp
  · intro ε ε' service service' world world' latest begun hanswer hit miss
    obtain ⟨hmissing, hstores⟩ := hblank begun
    obtain ⟨hshown', hresult', -⟩ :=
      between_of_storesFor hread hmissing hanswer houtcome httl hstores
    have hrun : hit = ⟨result, s, world⟩ := between_of_started hstart
    have hsame : hit.shown = miss.shown := by
      rw [hrun]
      exact hshown.trans hshown'.symm
    refine ⟨by rw [hrun], ?_, hsame⟩
    have hmiss : miss.result = miss.shown.map fun _ => Outcome.ofAnswer spec answer := hresult'
    rw [hmiss, ← hsame, hrun]
    exact hresult

section Pairs

variable {first second : Text} {a b : Spec}

/-- What one block has left is recalled by the other, on any cache that keeps the laws and stores the
answer. -/
theorem isRecalledAsFetched_of_laws (L : CacheLaws σ)
    (hstores : ∀ c, L.Sound c → ∀ key, StoresFor ttl c key (.ofAnswer fetched answer))
    (hblank : L.Sound blank) (hnothing : ∀ now key, (ResultCache.get blank now key).1 = .ok none)
    {events : List (Instant × Event)} (husual : ∀ event ∈ events, Event.IsUsual event)
    (hcache : L.Sound cache) (hfirst : Spec.read hub.settings first = .ok a)
    (hsecond : Spec.read hub.settings second = .ok b) (hkey : a.cacheKey = b.cacheKey)
    (httl : 0 ≤ ttl.micros) (hlater : later.micros - fetched.micros ≤ ttl.micros)
    (hanswer : answerOf service hub a world = answer) (houtcome : IsSearchOutcome answer)
    (hmissing : (ResultCache.get ((quiet cache).run hub events).cache begun a.cacheKey).1 = .ok none) :
    IsRecalledAsFetched hub second b
      (between service hub begun fetched first ((quiet cache).run hub events).cache world).scene.cache
      blank fetched later answer := by
  have hsound : L.Sound ((quiet cache).run hub events).cache :=
    run_sound L (quiet cache) hcache husual
  have hlooked := L.get_sound begun a.cacheKey hsound
  obtain ⟨-, -, hrecalls⟩ :=
    between_of_storesFor hfirst hmissing hanswer houtcome httl (hstores _ hlooked a.cacheKey)
  rw [hkey] at hrecalls
  apply isRecalledAsFetched hsecond houtcome hrecalls httl hlater
  intro begun
  exact ⟨hnothing begun b.cacheKey, hstores _ (L.get_sound begun b.cacheKey hblank) b.cacheKey⟩

end Pairs

end BlockRun

end QueryFence
