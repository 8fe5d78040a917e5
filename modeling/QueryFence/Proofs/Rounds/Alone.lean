import QueryFence.Proofs.Rounds.Sharing

/-!
A block rendered by itself, and blocks rendered one after the other, with a search service whose answers
depend on nothing but the query and the limit.
-/

namespace QueryFence

open QueryFence.Cycle QueryFence.Traffic

section Plans

variable {Ask : Type} {Reply : Ask → Type} {α ε : Type}

/-- Whatever becomes of the world meanwhile, a plan ends with this result, and waits no more often than
so many times. -/
inductive Plan.EndsWithin (answer : (q : Ask) → ε → Reply q × ε) (waits : Ask → Bool) (result : α) :
    Nat → Plan Ask Reply α → Prop
  | done {n : Nat} : EndsWithin answer waits result n (.done result)
  | ask {n : Nat} {question : Ask} {next : Reply question → Plan Ask Reply α}
      (hask : waits question = false)
      (hnext : ∀ world, EndsWithin answer waits result n (next (answer question world).1)) :
      EndsWithin answer waits result n (.ask question next)
  | wait {n : Nat} {question : Ask} {next : Reply question → Plan Ask Reply α}
      (hask : waits question = true)
      (hnext : ∀ world, EndsWithin answer waits result n (next (answer question world).1)) :
      EndsWithin answer waits result (n + 1) (.ask question next)

variable {answer : (q : Ask) → ε → Reply q × ε} {waits : Ask → Bool} {result : α} {n : Nat}
  {p : Plan Ask Reply α}

theorem Plan.EndsWithin.run_fst (h : p.EndsWithin answer waits result n) (world : ε) :
    (p.run answer world).1 = result := by
  induction h generalizing world with
  | done => rfl
  | ask _ _ ih => exact ih world _
  | wait _ _ ih => exact ih world _

/-- A plan that goes on comes to its end, or waits and has one time less to wait. -/
theorem Plan.EndsWithin.advance (h : p.EndsWithin answer waits result n) (world : ε) :
    (∃ after, p.advance answer waits world = (.done result, false, after)) ∨
      ∃ m next after, n = m + 1 ∧ p.advance answer waits world = (next, true, after) ∧
        next.EndsWithin answer waits result m := by
  induction h generalizing world with
  | done => exact .inl ⟨world, rfl⟩
  | @ask n question next hask hnext ih =>
    have heq : (Plan.ask question next).advance answer waits world =
        (next (answer question world).1).advance answer waits (answer question world).2 := by
      simp only [Plan.advance, hask, Bool.false_eq_true, if_false]
    rw [heq]
    exact ih world _
  | @wait n question next hask hnext ih =>
    refine .inr ⟨n, next (answer question world).1, (answer question world).2, rfl, ?_, hnext world⟩
    simp only [Plan.advance, hask, if_true]

end Plans

/-- Every search of a service ends with what a function of its query and limit gives, however the
service is used otherwise, and does not wait more often than the service allows. -/
def Service.Answers {ε : Type} (service : Service ε)
    (outcome : Text → Int → Except SearchFailure Json) : Prop :=
  ∀ query limit, (service.search query limit).EndsWithin service.answer service.waits
    (outcome query limit) service.patience

/-- The answer to the search of a block. -/
def Cycle.answerTo (hub : Hub) (outcome : Text → Int → Except SearchFailure Json) (spec : Spec) :
    Except SearchFailure Json :=
  outcome spec.query (effectiveLimit hub spec)

namespace BlockRun

variable {σ ε : Type}

/-- The text that a run has shown, unless it ended in a fault. -/
def shown (run : BlockRun σ ε) : Except Fault Text := run.result.map fun _ => run.scene.display.output

variable [ResultCache σ] {service : Service ε} {hub : Hub} {now : Instant} {source : Text} {cache : σ}
  {world : ε}

/-- A block rendered by itself. -/
def alone (service : Service ε) (hub : Hub) (now : Instant) (source : Text) (cache : σ) (world : ε) :
    BlockRun σ ε :=
  follow service hub now false (Cycle.startBlock hub now false source) cache world

/-- The texts of blocks that are rendered one after the other on one cache. -/
def inTurn (service : Service ε) (hub : Hub) (now : Instant) :
    List Text → σ → ε → Except Fault (List Text)
  | [], _, _ => .ok []
  | source :: rest, cache, world =>
    let run := alone service hub now source cache world
    match run.shown with
    | .error fault => .error fault
    | .ok t => (inTurn service hub now rest run.scene.cache run.world).map (t :: ·)

theorem startBlock_false (hub : Hub) (now : Instant) (source : Text) :
    (Cycle.startBlock hub now false source : CycleM σ Begun) = Cycle.start hub now source := rfl

theorem alone_of_finished {outcome : Outcome} {s : Scene σ}
    (h : (Cycle.start hub now source).run.run ⟨Display.blank, cache⟩ = (.ok (.finished outcome), s)) :
    alone service hub now source cache world = ⟨.ok outcome, s, world⟩ := by
  simp only [alone, follow, startBlock_false, h]

theorem alone_of_error {fault : Fault} {s : Scene σ}
    (h : (Cycle.start hub now source).run.run ⟨Display.blank, cache⟩ = (.error fault, s)) :
    alone service hub now source cache world = ⟨.error fault, s, world⟩ := by
  simp only [alone, follow, startBlock_false, h]

theorem alone_of_searching {outcome : Text → Int → Except SearchFailure Json}
    (hs : service.Answers outcome) {spec : Spec} {s : Scene σ}
    (h : (Cycle.start hub now source).run.run ⟨Display.blank, cache⟩ =
      (.ok (.searching ⟨spec, effectiveLimit hub spec⟩), s)) (world : ε) :
    ∃ after, alone service hub now source cache world =
      ⟨((Cycle.resume hub now ⟨spec, effectiveLimit hub spec⟩ (answerTo hub outcome spec)).run.run s).1,
        ((Cycle.resume hub now ⟨spec, effectiveLimit hub spec⟩ (answerTo hub outcome spec)).run.run s).2,
        after⟩ := by
  have hrun := (hs spec.query (effectiveLimit hub spec)).run_fst world
  refine ⟨((service.search spec.query (effectiveLimit hub spec)).run service.answer world).2, ?_⟩
  simp only [alone, follow, startBlock_false, h, Bool.false_eq_true, if_false, hrun, answerTo]
  rfl

end BlockRun

namespace Sharing

variable {σ ε : Type} [ResultCache σ] {service : Service ε} {hub : Hub} {now : Instant}
  {known : Spec → Prop} {outcome : Text → Int → Except SearchFailure Json} {first : σ}
  {S : Sharing σ now known (answerTo hub outcome) first} {source t : Text} {world : ε}

/-- What a block shows that is rendered by itself on the cache as it was at first. -/
theorem shows_of_alone (S : Sharing σ now known (answerTo hub outcome) first)
    (hs : service.Answers outcome)
    (hknown : ∀ spec, Spec.read hub.settings source = .ok spec → known spec)
    (h : (BlockRun.alone service hub now source first world).shown = .ok t) :
    S.Shows hub source t := by
  obtain ⟨r, hr⟩ : ∃ r, r = (Cycle.start hub now source).run.run ⟨Display.blank, first⟩ := ⟨_, rfl⟩
  have hb : Begins hub now source ⟨Display.blank, first⟩ r := hr ▸ start_begins source _
  cases hb with
  | unread _ =>
    rw [BlockRun.alone_of_error hr.symm] at h
    cases h
  | rejected hread =>
    rw [BlockRun.alone_of_finished hr.symm] at h
    exact .rejected hread (Except.ok.inj h)
  | broken _ _ =>
    rw [BlockRun.alone_of_error hr.symm] at h
    cases h
  | @missed spec cache hread hget =>
    -- alone the block has stored its answer when it looks up the time to show
    have hk := hknown spec hread
    obtain ⟨hreached, -⟩ := S.get S.initial hk
    obtain ⟨after, halone⟩ := BlockRun.alone_of_searching hs hr.symm world
    rw [halone] at h
    obtain ⟨ho, hstored⟩ := isSearchOutcome_of_resume h
    have hmissing : (ResultCache.get first now spec.cacheKey).1 = .ok none := by rw [hget]
    rw [hget] at hreached
    have hstored' : ∃ record, (ResultCache.add (ResultCache.get first now spec.cacheKey).2 now
        spec.cacheKey (recorded (answerTo hub outcome spec)).1
        (recorded (answerTo hub outcome spec)).2).1 = .ok record := by
      rw [hget]
      exact hstored
    obtain ⟨after, hadd, -, hfound⟩ := S.add hreached hk hmissing hstored'
    refine .searched hread ⟨hk, hmissing, ho, hstored', ?_⟩
    rw [fresh, ← hfound]
    exact (shown_resume (p := ⟨spec, effectiveLimit hub spec⟩) ho rfl hadd).symm.trans h
  | @found spec record cache r s' hread hget hshow =>
    have hk := hknown spec hread
    obtain ⟨-, hsame⟩ := S.get S.initial hk
    have hshown := shown_showStored hub now spec record (s := ⟨Display.blank, cache⟩) rfl
    rw [hget] at hsame
    rw [hshow, hsame] at hshown
    cases r with
    | error fault =>
      rw [BlockRun.alone_of_error hr.symm] at h
      cases h
    | ok outcome =>
      rw [BlockRun.alone_of_finished hr.symm] at h
      exact .stored hread hk (by rw [hget]) (hshown.symm.trans h)

/-- A block shows the same by itself from every state of the cache. -/
theorem Shows.alone (h : S.Shows hub source t) (hs : service.Answers outcome) {c : σ}
    (hc : S.Reached c) (world : ε) :
    (BlockRun.alone service hub now source c world).shown = .ok t ∧
      S.Reached (BlockRun.alone service hub now source c world).scene.cache := by
  obtain ⟨r, hr⟩ : ∃ r, r = (Cycle.start hub now source).run.run ⟨Display.blank, c⟩ := ⟨_, rfl⟩
  have hstarts : S.Starts hub t r := hr ▸ h.starts hc
  cases hstarts with
  | finished hend =>
    rw [BlockRun.alone_of_finished hr.symm]
    exact ⟨hend.shown, hend.reached⟩
  | @searching spec s hsearch hafter hopen =>
    obtain ⟨after, halone⟩ := BlockRun.alone_of_searching hs hr.symm world
    have hend := hsearch.resume hafter hopen (effectiveLimit hub spec)
    rw [halone]
    exact ⟨hend.shown, hend.reached⟩

theorem inTurn_eq_ok (hs : service.Answers outcome) {sources texts : List Text}
    (h : List.Forall₂ (S.Shows hub) sources texts) {c : σ} (hc : S.Reached c) (world : ε) :
    BlockRun.inTurn service hub now sources c world = .ok texts := by
  induction h generalizing c world with
  | nil => rfl
  | @cons source t sources texts hfirst _ ih =>
    obtain ⟨hshown, hafter⟩ := hfirst.alone hs hc world
    rw [BlockRun.inTurn]
    simp only [hshown, ih hafter _]
    rfl

end Sharing

end QueryFence
