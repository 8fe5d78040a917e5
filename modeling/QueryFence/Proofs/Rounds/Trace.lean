import QueryFence.Cache.Memory
import QueryFence.Proofs.Rounds.Logging
import QueryFence.Proofs.Settings.Grammar

/-!
What can be seen of a cycle that ends in a state: the calls of its display, of the cache and of the search
service, each in their order, and the outcome that goes with them.
-/

namespace QueryFence

open QueryFence.Cycle

variable {σ ε : Type} {hub : Hub} {now later : Instant} {source : Text} {spec : Spec}

namespace Cycle

/-- The look-up for the time below a table. -/
def footerCalls (spec : Spec) : List CacheCall :=
  match spec.mode with
  | .list => []
  | .table => [.get spec.cacheKey]

variable [ResultCache σ]

/-- A cache after the look-up for the time below a table. -/
def afterFooter (now : Instant) (spec : Spec) (cache : σ) : σ :=
  match spec.mode with
  | .list => cache
  | .table => (ResultCache.get cache now spec.cacheKey).2

theorem calls_afterFooter (cache : Logged σ) :
    (afterFooter now spec cache).calls = cache.calls ++ footerCalls spec := by
  rw [afterFooter, footerCalls]
  cases spec.mode with
  | list => exact (List.append_nil _).symm
  | table => rfl

/-- Results that are shown without a fault are shown in one call. -/
theorem showResults_of_ok {results : Json} {s s' : Scene σ} (hopen : s.display.closed = false)
    (h : (showResults hub now spec results).run.run s = (.ok (), s')) :
    ∃ t, textOfResults hub spec results (ResultCache.get s.cache now spec.cacheKey).1 = .ok t ∧
      s' = ⟨s.display.put .results t, afterFooter now spec s.cache⟩ := by
  simp only [showResults, run_bind, run_get, hopen, Bool.false_eq_true, if_false] at h
  cases hmode : spec.mode with
  | list =>
    simp only [resultsText, textOfResults, afterFooter, hmode, run_result] at h ⊢
    cases hwrite : IssueList.write results with
    | error fault =>
      rw [hwrite] at h
      cases h
    | ok t =>
      rw [hwrite] at h
      exact ⟨t, rfl, (Prod.mk.inj h).2.symm⟩
  | table =>
    simp only [resultsText, textOfResults, afterFooter, hmode, run_bind, run_result, run_onCache,
      run_pure, getTime_fst_eq, getTime_snd] at h ⊢
    cases hwrite : Table.writeUpToTime hub.settings
        (if spec.columns.isEmpty then hub.columns else spec.columns) results with
    | error fault =>
      rw [hwrite] at h
      cases h
    | ok body =>
      rw [hwrite] at h
      cases htime : timeText (ResultCache.get s.cache now spec.cacheKey).1 with
      | error fault =>
        simp only [htime] at h
        cases h
      | ok time =>
        simp only [htime] at h
        exact ⟨body ++ time, rfl, (Prod.mk.inj h).2.symm⟩

/-- How a stored outcome is shown that can be. -/
inductive ShowsStored (hub : Hub) (now : Instant) (spec : Spec) (record : Json) (s : Scene σ) :
    Outcome → Scene σ → Prop
  | error {isError data : Json} (herror : record.item "is_error" = .ok isError)
      (hset : isError.isVoid = false) (hdata : record.item "data" = .ok data) :
    ShowsStored hub now spec record s (.failed (some spec) data)
      { s with display := s.display.put .errorWithSpec (errorText hub.settings data (some spec)) }
  | results {isError data : Json} {t : Text} (herror : record.item "is_error" = .ok isError)
      (hvoid : isError.isVoid = true) (hdata : record.item "data" = .ok data)
      (ht : textOfResults hub spec data (ResultCache.get s.cache now spec.cacheKey).1 = .ok t) :
    ShowsStored hub now spec record s (.rendered spec data)
      ⟨s.display.put .results t, afterFooter now spec s.cache⟩

theorem showStored_of_ok {record : Json} {s s' : Scene σ} (hopen : s.display.closed = false)
    {outcome : Outcome} (h : (showStored hub now spec record).run.run s = (.ok outcome, s')) :
    ShowsStored hub now spec record s outcome s' := by
  simp only [showStored, run_bind, run_result] at h
  cases herror : record.item "is_error" with
  | error fault =>
    rw [herror] at h
    cases h
  | ok isError =>
    cases hdata : record.item "data" with
    | error fault =>
      simp only [herror, hdata] at h
      cases h
    | ok data =>
      simp only [herror, hdata] at h
      cases hvoid : isError.isVoid with
      | false =>
        rw [hvoid, if_neg Bool.false_ne_true] at h
        cases h
        exact .error herror hvoid hdata
      | true =>
        rw [hvoid, if_pos rfl, run_bind] at h
        rcases hshow : (showResults hub now spec data).run.run s with ⟨fault | _, after⟩
        · rw [hshow] at h
          cases h
        · rw [hshow] at h
          cases h
          obtain ⟨t, ht, rfl⟩ := showResults_of_ok hopen hshow
          exact .results herror hvoid hdata ht

/-- How an answered search is stored and shown when it can be. -/
inductive ShowsAnswer (hub : Hub) (later : Instant) (spec : Spec) (s : Scene σ) :
    Except SearchFailure Json → Outcome → Scene σ → Prop
  | error {failure : SearchFailure} {record : Json} {stored : σ}
      (hadd : ResultCache.add s.cache later spec.cacheKey (.text failure.message) true =
        (.ok record, stored)) :
    ShowsAnswer hub later spec s (.error failure) (.failed (some spec) (.text failure.message))
      ⟨s.display.put .errorWithSpec
        (errorText hub.settings (.text failure.message) (some spec)), stored⟩
  | results {results record data : Json} {stored : σ} {t : Text}
      (hadd : ResultCache.add s.cache later spec.cacheKey results false = (.ok record, stored))
      (hdata : record.item "data" = .ok data)
      (ht : textOfResults hub spec data (ResultCache.get stored later spec.cacheKey).1 = .ok t) :
    ShowsAnswer hub later spec s (.ok results) (.rendered spec data)
      ⟨s.display.put .results t, afterFooter later spec stored⟩

theorem resume_of_ok {p : Pending} {answer : Except SearchFailure Json} {s s' : Scene σ}
    (hopen : s.display.closed = false) {outcome : Outcome}
    (h : (resume hub later p answer).run.run s = (.ok outcome, s')) :
    ShowsAnswer hub later p.spec s answer outcome s' := by
  cases answer with
  | error failure =>
    simp only [resume, run_bind, run_onCache] at h
    rcases hadd : ResultCache.add s.cache later p.spec.cacheKey (.text failure.message) true with
      ⟨fault | record, stored⟩
    · rw [hadd] at h
      cases h
    · rw [hadd] at h
      cases h
      exact .error hadd
  | ok results =>
    simp only [resume, run_bind, run_result, run_onCache] at h
    cases htotal : results.item "total" with
    | error fault =>
      rw [htotal] at h
      cases h
    | ok total =>
      rw [htotal] at h
      rcases hadd : ResultCache.add s.cache later p.spec.cacheKey results false with
        ⟨fault | record, stored⟩
      · simp only [hadd] at h
        cases h
      · cases hdata : record.item "data" with
        | error fault =>
          simp only [hadd, hdata] at h
          cases h
        | ok data =>
          simp only [hadd, hdata] at h
          rcases hshow : (showResults hub later p.spec data).run.run { s with cache := stored } with
            ⟨fault | _, after⟩
          · rw [hshow] at h
            cases h
          · rw [hshow] at h
            cases h
            obtain ⟨t, ht, rfl⟩ := showResults_of_ok (s := { s with cache := stored }) hopen hshow
            exact .results hadd hdata ht

end Cycle

namespace BlockRun

variable [ResultCache σ] {service : Service ε} {cache : σ} {world : ε}

/-- The runs of a block that end in a state, each with the calls of its display and the texts they show,
the calls of the cache, the searches, and the outcome. -/
inductive Traces (service : Service ε) (hub : Hub) (now later : Instant) (source : Text) (cache : σ)
    (world : ε) : List (Showing × Text) → List CacheCall → List (Text × Int) → Outcome → Prop
  | rejected {error : SpecError}
      (hread : Spec.read hub.settings source = .error (.rejected error)) :
    Traces service hub now later source cache world
      [(.error, errorText hub.settings (.text error.message) none)] [] []
      (.failed none (.text error.message))
  | foundError {spec : Spec} {record isError data : Json} {found : σ}
      (hread : Spec.read hub.settings source = .ok spec)
      (hget : ResultCache.get cache now spec.cacheKey = (.ok (some record), found))
      (herror : record.item "is_error" = .ok isError) (hset : isError.isVoid = false)
      (hdata : record.item "data" = .ok data) :
    Traces service hub now later source cache world
      [(.errorWithSpec, errorText hub.settings data (some spec))] [.get spec.cacheKey] []
      (.failed (some spec) data)
  | foundResults {spec : Spec} {record isError data : Json} {found : σ} {t : Text}
      (hread : Spec.read hub.settings source = .ok spec)
      (hget : ResultCache.get cache now spec.cacheKey = (.ok (some record), found))
      (herror : record.item "is_error" = .ok isError) (hvoid : isError.isVoid = true)
      (hdata : record.item "data" = .ok data)
      (ht : textOfResults hub spec data (ResultCache.get found now spec.cacheKey).1 = .ok t) :
    Traces service hub now later source cache world
      [(.results, t)] ([.get spec.cacheKey] ++ footerCalls spec) [] (.rendered spec data)
  | fetchedError {spec : Spec} {failure : SearchFailure} {missed stored : σ} {record : Json}
      (hread : Spec.read hub.settings source = .ok spec)
      (hget : ResultCache.get cache now spec.cacheKey = (.ok none, missed))
      (hsearch : ((service.search spec.query (effectiveLimit hub spec)).run service.answer world).1 =
        .error failure)
      (hadd : ResultCache.add missed later spec.cacheKey (.text failure.message) true =
        (.ok record, stored)) :
    Traces service hub now later source cache world
      [(.loading, loadingText),
        (.errorWithSpec, errorText hub.settings (.text failure.message) (some spec))]
      [.get spec.cacheKey, .add spec.cacheKey (.text failure.message) true]
      [(spec.query, effectiveLimit hub spec)] (.failed (some spec) (.text failure.message))
  | fetchedResults {spec : Spec} {results record data : Json} {missed stored : σ} {t : Text}
      (hread : Spec.read hub.settings source = .ok spec)
      (hget : ResultCache.get cache now spec.cacheKey = (.ok none, missed))
      (hsearch : ((service.search spec.query (effectiveLimit hub spec)).run service.answer world).1 =
        .ok results)
      (hadd : ResultCache.add missed later spec.cacheKey results false = (.ok record, stored))
      (hdata : record.item "data" = .ok data)
      (ht : textOfResults hub spec data (ResultCache.get stored later spec.cacheKey).1 = .ok t) :
    Traces service hub now later source cache world
      [(.loading, loadingText), (.results, t)]
      ([.get spec.cacheKey, .add spec.cacheKey results false] ++ footerCalls spec)
      [(spec.query, effectiveLimit hub spec)] (.rendered spec data)

theorem traces_logged {outcome : Outcome}
    (h : (logged service hub now later source cache world).result = .ok outcome) :
    Traces service hub now later source cache world
      (logged service hub now later source cache world).scene.display.history
      (logged service hub now later source cache world).scene.cache.calls
      (logged service hub now later source cache world).world.2 outcome := by
  obtain ⟨r, hr⟩ : ∃ r, (start hub now source).run.run
      (⟨Display.blank, ⟨cache, []⟩⟩ : Scene (Logged σ)) = r := ⟨_, rfl⟩
  have hbegins : Begins hub now source (⟨Display.blank, ⟨cache, []⟩⟩ : Scene (Logged σ)) r :=
    hr ▸ start_begins source _
  rw [logged, between, hr] at h ⊢
  cases hbegins with
  | unread hread => cases h
  | rejected hread =>
    cases h
    exact .rejected hread
  | broken hread hget => cases h
  | @found spec record after result s hread hget hshow =>
    obtain ⟨hfound, rfl⟩ := Prod.mk.inj hget
    cases result with
    | error fault => cases h
    | ok ending =>
      cases h
      cases showStored_of_ok rfl hshow with
      | error herror hset hdata =>
        exact .foundError hread (Prod.ext hfound rfl) herror hset hdata
      | results herror hvoid hdata ht =>
        dsimp only [Except.map]
        rw [calls_afterFooter]
        exact .foundResults hread (Prod.ext hfound rfl) herror hvoid hdata ht
  | @missed spec after hread hget =>
    obtain ⟨hmissed, rfl⟩ := Prod.mk.inj hget
    dsimp only at h ⊢
    rw [Service.run_logged] at h ⊢
    dsimp only at h ⊢
    generalize hsearch : ((service.search spec.query (effectiveLimit hub spec)).run service.answer
      world).1 = answer at h ⊢
    generalize hresume : (resume hub later ⟨spec, effectiveLimit hub spec⟩ answer :
      CycleM (Logged σ) Outcome).run.run _ = r at h ⊢
    obtain ⟨result, s⟩ := r
    obtain rfl : result = .ok outcome := h
    cases resume_of_ok (by rfl) hresume with
    | @error failure record stored hadd =>
      obtain ⟨hstored, rfl⟩ := Prod.mk.inj hadd
      exact .fetchedError hread (Prod.ext hmissed rfl) hsearch (Prod.ext hstored rfl)
    | @results results record data stored t hadd hdata ht =>
      obtain ⟨hstored, rfl⟩ := Prod.mk.inj hadd
      dsimp only
      rw [calls_afterFooter]
      exact .fetchedResults hread (Prod.ext hmissed rfl) hsearch (Prod.ext hstored rfl) hdata ht

/-- A block that is rendered to a state makes one of five sequences of calls, whichever cache it finds and
whatever its search answers at a later instant. Writing the calls down does not change the run. -/
theorem traces_of_ended {outcome : Outcome}
    (h : (between service hub now later source cache world).result = .ok outcome) :
    let run := logged service hub now later source cache world
    run.erase = between service hub now later source cache world ∧
      Traces service hub now later source cache world run.scene.display.history
        run.scene.cache.calls run.world.2 outcome := by
  intro run
  have herase : run.erase = between service hub now later source cache world :=
    erase_logged cache world
  rw [← herase] at h
  exact ⟨herase, traces_logged h⟩

/-- A list of the results that a search gave, on an empty cache in memory. -/
theorem traces_of_fetched_list :
    let hub : Hub :=
      ⟨Settings.standard, (Column.defaults Settings.standard).toOption.getD []⟩
    let results : Json := .object [("issues", .list []), ("total", .int 0)]
    let service := Rehearsal.service 1
    let world : Rehearsal.Script := ⟨[.ok results], []⟩
    let cache := MemoryCache.empty ⟨900000000⟩
    let run := logged service hub ⟨0⟩ ⟨1⟩ "type: list\nquery: a" cache world
    (between service hub ⟨0⟩ ⟨1⟩ "type: list\nquery: a" cache world).result =
        .ok (.rendered ⟨.list, "a", none, []⟩ results) ∧
      run.erase = between service hub ⟨0⟩ ⟨1⟩ "type: list\nquery: a" cache world ∧
      Traces service hub ⟨0⟩ ⟨1⟩ "type: list\nquery: a" cache world run.scene.display.history
        run.scene.cache.calls run.world.2 (.rendered ⟨.list, "a", none, []⟩ results) := by
  intro hub results service world cache run
  have hread : Spec.read hub.settings "type: list\nquery: a" = .ok ⟨.list, "a", none, []⟩ := by
    decide +kernel
  have hresult : (between service hub ⟨0⟩ ⟨1⟩ "type: list\nquery: a" cache world).result =
      .ok (.rendered ⟨.list, "a", none, []⟩ results) := by
    rw [between_of_searching (start_of_missing hread rfl) rfl]
    rfl
  exact ⟨hresult, traces_of_ended hresult⟩

end BlockRun

end QueryFence
