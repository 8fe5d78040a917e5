import QueryFence.Cycle

/-!
What the steps of a cycle do to its display and to the cache: one equation for each way to write a
step, and from these one for each part of a cycle.
-/

namespace QueryFence.Cycle

variable {σ α β : Type}

theorem run_pure (a : α) (s : Scene σ) : (pure a : CycleM σ α).run.run s = (.ok a, s) := rfl

theorem run_throw (fault : Fault) (s : Scene σ) :
    (throw fault : CycleM σ α).run.run s = (.error fault, s) := rfl

theorem run_result (r : Except Fault α) (s : Scene σ) :
    (ExceptT.mk (pure r) : CycleM σ α).run.run s = (r, s) := rfl

theorem run_get (s : Scene σ) : (get : CycleM σ (Scene σ)).run.run s = (.ok s, s) := rfl

theorem run_bind (m : CycleM σ α) (f : α → CycleM σ β) (s : Scene σ) :
    (m >>= f).run.run s =
      match m.run.run s with
      | (.ok a, s') => (f a).run.run s'
      | (.error fault, s') => (.error fault, s') := by
  rw [ExceptT.run_bind, StateT.run_bind]
  rcases h : m.run.run s with ⟨r, s'⟩
  cases r with
  | ok a => rfl
  | error fault => rfl

/-- What is only handed back changes nothing. -/
theorem run_bind_pure_snd (m : CycleM σ α) (f : α → β) (s : Scene σ) :
    ((m >>= fun a => pure (f a)).run.run s).2 = (m.run.run s).2 := by
  rw [run_bind]
  rcases m.run.run s with ⟨fault | a, s'⟩ <;> rfl

theorem run_onCache (f : σ → Except Fault α × σ) (s : Scene σ) :
    (onCache f).run.run s = ((f s.cache).1, { s with cache := (f s.cache).2 }) := rfl

theorem run_showText (call : Showing) (t : Text) (s : Scene σ) :
    (showText call t).run.run s = (.ok (), { s with display := s.display.put call t }) := rfl

/-- A text of results. What a table ends with depends on the time. -/
def ShowsResults (hub : Hub) (spec : Spec) (results : Json) (t : Text) : Prop :=
  match spec.mode with
  | .list => IssueList.write results = .ok t
  | .table => ∃ body time, Table.writeUpToTime hub.settings
      (if spec.columns.isEmpty then hub.columns else spec.columns) results = .ok body ∧
      t = body ++ time

/-- The outcome of a search as it is stored: its results, or the message of its failure. -/
def recorded : Except SearchFailure Json → Json × Bool
  | .ok results => (results, false)
  | .error failure => (.text failure.message, true)

/-- Results that tell how many there are, or a failure. -/
def IsSearchOutcome : Except SearchFailure Json → Prop
  | .ok results => ∃ total, results.item "total" = .ok total
  | .error _ => True

instance : (outcome : Except SearchFailure Json) → Decidable (IsSearchOutcome outcome)
  | .ok results =>
    match h : results.item "total" with
    | .ok total => .isTrue ⟨total, h⟩
    | .error _ => .isFalse fun ⟨_, ht⟩ => nomatch h.symm.trans ht
  | .error _ => .isTrue trivial

/-- What a display may show for the outcome of a search for a block. -/
def Shows (hub : Hub) (spec : Spec) (shown : Showing × Text) : Except SearchFailure Json → Prop
  | .ok results => shown.1 = .results ∧ ShowsResults hub spec results shown.2
  | .error failure =>
    shown = (.errorWithSpec, errorText hub.settings (.text failure.message) (some spec))

/-- How a cycle ends that has an outcome to show: the data of the outcome, or a failure's message. -/
inductive Delivers (hub : Hub) (spec : Spec) (data : Json) (isError : Bool) (s : Scene σ) :
    Except Fault Outcome × Scene σ → Prop
  | error (h : isError = true) :
    Delivers hub spec data isError s (.ok (.failed (some spec) data),
      { s with display := s.display.put .errorWithSpec (errorText hub.settings data (some spec)) })
  | results {t : Text} {cache : σ} (h : isError = false) (ht : ShowsResults hub spec data t) :
    Delivers hub spec data isError s (.ok (.rendered spec data), ⟨s.display.put .results t, cache⟩)
  | fault {fault : Fault} {cache : σ} (h : isError = false) :
    Delivers hub spec data isError s (.error fault, ⟨s.display, cache⟩)

variable {hub : Hub} {now : Instant} {spec : Spec}

theorem delivers_error (data : Json) (s : Scene σ) :
    Delivers hub spec data true s
      ((do showError hub data (some spec); return Outcome.failed (some spec) data).run.run s) := by
  exact .error rfl

/-- Nothing but the outcome is shown. -/
theorem Delivers.shows {data : Json} {isError : Bool} {s : Scene σ}
    {r : Except Fault Outcome × Scene σ} (h : Delivers hub spec data isError s r)
    (hopen : s.display.closed = false) {outcome : Except SearchFailure Json}
    (ho : (data, isError) = recorded outcome) {shown : Showing × Text}
    (hs : shown ∈ r.2.display.history) :
    shown ∈ s.display.history ∨ Shows hub spec shown outcome := by
  cases h with
  | error herror =>
    rcases List.mem_append.1 hs with hs | hs
    · exact .inl hs
    · right
      cases outcome with
      | ok results => cases ho.symm.trans (by rw [herror])
      | error failure =>
        obtain ⟨rfl, -⟩ := Prod.mk.inj ho
        rw [List.mem_singleton.1 hs, hopen]
        rfl
  | results herror ht =>
    rcases List.mem_append.1 hs with hs | hs
    · exact .inl hs
    · right
      cases outcome with
      | ok results =>
        obtain ⟨rfl, -⟩ := Prod.mk.inj ho
        rw [List.mem_singleton.1 hs, hopen]
        exact ⟨rfl, ht⟩
      | error failure => cases ho.symm.trans (by rw [herror])
  | fault _ => exact .inl hs

variable [ResultCache σ]

/-- A cache as it was, or after one look-up under a key. -/
def IsLookedUp (now : Instant) (key : Text) (cache after : σ) : Prop :=
  after = cache ∨ after = (ResultCache.get cache now key).2

theorem getTime_snd (cache : σ) (key : Text) :
    (ResultCache.getTime cache now key).2 = (ResultCache.get cache now key).2 := by
  rw [ResultCache.getTime]
  rcases ResultCache.get cache now key with ⟨_ | found, after⟩
  · rfl
  · cases found <;> rfl

/-- The time of a table, by what a look-up under the key of its block finds. -/
def timeText : Except Fault (Option Json) → Except Fault Text
  | .error fault => .error fault
  | .ok none => .ok missingTime
  | .ok (some record) => shownTime record

theorem getTime_fst_eq (cache : σ) (key : Text) :
    (ResultCache.getTime cache now key).1 = timeText (ResultCache.get cache now key).1 := by
  rw [ResultCache.getTime]
  rcases ResultCache.get cache now key with ⟨_ | found, after⟩
  · rfl
  · cases found <;> rfl

/-- The text of results, by what a look-up under the key of their block finds. -/
def textOfResults (hub : Hub) (spec : Spec) (results : Json)
    (found : Except Fault (Option Json)) : Except Fault Text :=
  match spec.mode with
  | .list => IssueList.write results
  | .table =>
    match Table.writeUpToTime hub.settings
        (if spec.columns.isEmpty then hub.columns else spec.columns) results with
    | .error fault => .error fault
    | .ok body => (timeText found).map (body ++ ·)

theorem showsResults_of_textOfResults {results : Json} {found : Except Fault (Option Json)}
    {t : Text} (h : textOfResults hub spec results found = .ok t) :
    ShowsResults hub spec results t := by
  rw [textOfResults] at h
  cases hmode : spec.mode with
  | list =>
    rw [ShowsResults, hmode]
    rw [hmode] at h
    exact h
  | table =>
    rw [ShowsResults, hmode]
    rw [hmode] at h
    dsimp only at h ⊢
    split at h
    · cases h
    · next body hbody =>
      cases htime : timeText found with
      | error fault =>
        rw [htime] at h
        cases h
      | ok time =>
        rw [htime] at h
        exact ⟨body, time, hbody, (Except.ok.inj h).symm⟩

/-- Writing results looks at the cache at most once, under the key of the block. -/
theorem run_resultsText (hub : Hub) (now : Instant) (spec : Spec) (results : Json) (s : Scene σ) :
    ∃ cache, IsLookedUp now spec.cacheKey s.cache cache ∧
      (resultsText hub now spec results).run.run s =
        (textOfResults hub spec results (ResultCache.get s.cache now spec.cacheKey).1,
          { s with cache := cache }) := by
  cases hmode : spec.mode with
  | list =>
    refine ⟨s.cache, .inl rfl, ?_⟩
    simp only [resultsText, textOfResults, hmode, run_result]
  | table =>
    simp only [resultsText, textOfResults, hmode, run_bind, run_result, run_onCache, run_pure,
      getTime_fst_eq, getTime_snd]
    cases Table.writeUpToTime hub.settings
      (if spec.columns.isEmpty then hub.columns else spec.columns) results with
    | error fault => exact ⟨s.cache, .inl rfl, rfl⟩
    | ok body =>
      refine ⟨_, .inr rfl, ?_⟩
      cases htime : timeText (ResultCache.get s.cache now spec.cacheKey).1 <;>
        simp only [htime, Except.map]

theorem isLookedUp_showResults (hub : Hub) (now : Instant) (spec : Spec) (results : Json)
    (s : Scene σ) :
    IsLookedUp now spec.cacheKey s.cache ((showResults hub now spec results).run.run s).2.cache := by
  obtain ⟨cache, hc, hrun⟩ := run_resultsText hub now spec results s
  simp only [showResults, run_bind, run_get]
  cases s.display.closed with
  | true => exact .inl rfl
  | false =>
    simp only [Bool.false_eq_true, if_false, run_bind, hrun]
    cases textOfResults hub spec results (ResultCache.get s.cache now spec.cacheKey).1 <;> exact hc

/-- Showing results on an open display, and what the cycle then ends with. -/
theorem delivers_results {data : Json} {s : Scene σ} (hopen : s.display.closed = false) :
    Delivers hub spec data false s
      ((do showResults hub now spec data; return Outcome.rendered spec data).run.run s) := by
  obtain ⟨cache, -, hrun⟩ := run_resultsText hub now spec data s
  simp only [showResults, run_bind, run_get, hopen, Bool.false_eq_true, if_false, hrun]
  cases ht : textOfResults hub spec data (ResultCache.get s.cache now spec.cacheKey).1 with
  | error fault => exact .fault rfl
  | ok t =>
    simp only [run_showText, run_pure]
    exact .results rfl (showsResults_of_textOfResults ht)

/-- An outcome from the cache is delivered as it was stored. -/
theorem delivers_stored (e : Entry) {s : Scene σ} (hopen : s.display.closed = false) :
    Delivers hub spec e.data e.isError s ((showStored hub now spec e.toJson).run.run s) := by
  have herror : e.toJson.item "is_error" = .ok (.bool e.isError) := rfl
  have hdata : e.toJson.item "data" = .ok e.data := rfl
  simp only [showStored, herror, hdata]
  cases e.isError with
  | true => exact delivers_error e.data s
  | false => exact delivers_results hopen

theorem isLookedUp_showStored (hub : Hub) (now : Instant) (spec : Spec) (record : Json)
    (s : Scene σ) :
    IsLookedUp now spec.cacheKey s.cache ((showStored hub now spec record).run.run s).2.cache := by
  simp only [showStored, run_bind, run_result]
  cases record.item "is_error" with
  | error fault => exact .inl rfl
  | ok isError =>
    cases record.item "data" with
    | error fault => exact .inl rfl
    | ok data =>
      simp only
      split
      · rw [run_bind_pure_snd]
        exact isLookedUp_showResults hub now spec data s
      · exact .inl rfl

/-- An answered search is stored and then delivered. -/
theorem delivers_answer {p : Pending} {outcome : Except SearchFailure Json}
    (ho : IsSearchOutcome outcome) {s : Scene σ} (hopen : s.display.closed = false)
    {e : Entry} (he : (e.data, e.isError) = recorded outcome) {cache : σ}
    (hadd : ResultCache.add s.cache now p.spec.cacheKey e.data e.isError = (.ok e.toJson, cache)) :
    Delivers hub p.spec e.data e.isError { s with cache := cache }
      ((resume hub now p outcome).run.run s) := by
  cases outcome with
  | error failure =>
    obtain ⟨hdata, herror⟩ := Prod.mk.inj he
    rw [hdata, herror] at hadd ⊢
    simp only [resume, run_bind, run_onCache, hadd]
    exact delivers_error _ { s with cache := cache }
  | ok results =>
    obtain ⟨total, htotal⟩ := ho
    obtain ⟨hdata, herror⟩ := Prod.mk.inj he
    rw [herror] at hadd ⊢
    have hitem : e.toJson.item "data" = .ok e.data := rfl
    rw [hdata] at hadd hitem ⊢
    simp only [resume, run_bind, run_onCache, run_result, htotal, hadd, hitem]
    rw [← run_bind]
    exact delivers_results (s := { s with cache := cache }) hopen

/-- An answered search is stored, and after that only looked up. -/
theorem isLookedUp_resume (hub : Hub) {now : Instant} {p : Pending}
    {outcome : Except SearchFailure Json} (ho : IsSearchOutcome outcome) {s : Scene σ} {e : Entry}
    (he : (e.data, e.isError) = recorded outcome) {cache : σ}
    (hadd : ResultCache.add s.cache now p.spec.cacheKey e.data e.isError = (.ok e.toJson, cache)) :
    IsLookedUp now p.spec.cacheKey cache ((resume hub now p outcome).run.run s).2.cache := by
  obtain ⟨hdata, herror⟩ := Prod.mk.inj he
  cases outcome with
  | error failure =>
    rw [hdata, herror] at hadd
    simp only [resume, run_bind, run_onCache, hadd]
    exact .inl rfl
  | ok results =>
    obtain ⟨total, htotal⟩ := ho
    have hitem : e.toJson.item "data" = .ok e.data := rfl
    rw [hdata] at hadd hitem
    rw [herror] at hadd
    simp only [resume, run_bind, run_onCache, run_result, htotal, hadd, hitem]
    rw [← run_bind, run_bind_pure_snd]
    exact isLookedUp_showResults hub now p.spec results { s with cache := cache }

section Starting

variable {source : Text} {s : Scene σ} {cache : σ}

/-- A block that is refused shows why. -/
theorem start_of_rejected {error : SpecError}
    (hread : Spec.read hub.settings source = .error (.rejected error)) :
    (start hub now source).run.run s = (.ok (.finished (.failed none (.text error.message))),
      { s with display :=
        s.display.put .error (errorText hub.settings (.text error.message) none) }) := by
  simp only [start, hread]
  rfl

/-- A block for which nothing is found comes to its search. -/
theorem start_of_missing (hread : Spec.read hub.settings source = .ok spec)
    (hget : ResultCache.get s.cache now spec.cacheKey = (.ok none, cache)) :
    (start hub now source).run.run s = (.ok (.searching ⟨spec, effectiveLimit hub spec⟩),
      ⟨s.display.put .loading loadingText, cache⟩) := by
  simp only [start, hread, run_bind, run_onCache, hget, run_showText, run_pure]

/-- A block that finds its record shows it. -/
theorem start_of_found (hread : Spec.read hub.settings source = .ok spec) {record : Json}
    (hget : ResultCache.get s.cache now spec.cacheKey = (.ok (some record), cache))
    {r : Except Fault Outcome} {s' : Scene σ}
    (hshow : (showStored hub now spec record).run.run { s with cache := cache } = (r, s')) :
    (start hub now source).run.run s = (r.map .finished, s') := by
  simp only [start, hread, run_bind, run_onCache, hget, hshow]
  cases r <;> rfl

end Starting

/-- What a cycle comes to before it waits for anything. -/
inductive Begins (hub : Hub) (now : Instant) (source : Text) (s : Scene σ) :
    Except Fault Begun × Scene σ → Prop
  | unread {fault : Fault} (h : Spec.read hub.settings source = .error (.fault fault)) :
    Begins hub now source s (.error fault, s)
  | rejected {error : SpecError} (h : Spec.read hub.settings source = .error (.rejected error)) :
    Begins hub now source s (.ok (.finished (.failed none (.text error.message))),
      { s with display :=
        s.display.put .error (errorText hub.settings (.text error.message) none) })
  | broken {spec : Spec} {fault : Fault} {cache : σ} (h : Spec.read hub.settings source = .ok spec)
      (hget : ResultCache.get s.cache now spec.cacheKey = (.error fault, cache)) :
    Begins hub now source s (.error fault, { s with cache := cache })
  | missed {spec : Spec} {cache : σ} (h : Spec.read hub.settings source = .ok spec)
      (hget : ResultCache.get s.cache now spec.cacheKey = (.ok none, cache)) :
    Begins hub now source s (.ok (.searching ⟨spec, effectiveLimit hub spec⟩),
      ⟨s.display.put .loading loadingText, cache⟩)
  | found {spec : Spec} {record : Json} {cache : σ} {r : Except Fault Outcome} {s' : Scene σ}
      (h : Spec.read hub.settings source = .ok spec)
      (hget : ResultCache.get s.cache now spec.cacheKey = (.ok (some record), cache))
      (hshow : (showStored hub now spec record).run.run { s with cache := cache } = (r, s')) :
    Begins hub now source s (r.map .finished, s')

theorem start_begins (source : Text) (s : Scene σ) :
    Begins hub now source s ((start hub now source).run.run s) := by
  cases hread : Spec.read hub.settings source with
  | error failure =>
    cases failure with
    | rejected error =>
      rw [start_of_rejected hread]
      exact .rejected hread
    | fault fault =>
      simp only [start, hread, run_throw]
      exact .unread hread
  | ok spec =>
    rcases hget : ResultCache.get s.cache now spec.cacheKey with ⟨fault | _ | record, cache⟩
    · simp only [start, hread, run_bind, run_onCache, hget]
      exact .broken hread hget
    · rw [start_of_missing hread hget]
      exact .missed hread hget
    · rcases hshow : (showStored hub now spec record).run.run { s with cache := cache } with ⟨r, s'⟩
      rw [start_of_found hread hget hshow]
      exact .found hread hget hshow

/-- Starting over goes on behind a deletion that does not end in a fault. -/
theorem run_startOver (s : Scene σ) :
    (startOver hub now spec).run.run s =
      match ResultCache.delete s.cache spec.cacheKey with
      | (.ok (), cache) => (start hub now (spec.write hub.settings)).run.run { s with cache := cache }
      | (.error fault, cache) => (.error fault, { s with cache := cache }) := by
  simp only [startOver, run_bind, run_onCache]
  rcases ResultCache.delete s.cache spec.cacheKey with ⟨fault | _, cache⟩ <;> rfl

end QueryFence.Cycle
