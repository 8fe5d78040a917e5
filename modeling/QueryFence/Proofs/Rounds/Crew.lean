import Mathlib.Data.List.Forall2
import QueryFence.Proofs.Rounds.Alone

/-!
Blocks rendered side by side: every round brings each job nearer to the text that its block shows alone,
and there are rounds enough for all of them.
-/

namespace QueryFence

open QueryFence.Cycle

namespace Sharing

variable {σ ε : Type} [ResultCache σ] {service : Service ε} {hub : Hub} {now : Instant}
  {known : Spec → Prop} {outcome : Text → Int → Except SearchFailure Json} {first : σ}

/-- A job on its way to a text, which it reaches within so many turns. -/
inductive Nears (S : Sharing σ now known (answerTo hub outcome) first) (service : Service ε) :
    Nat → Job service → Text → Prop
  | ready {n : Nat} {source t : Text} (h : S.Shows hub source t) (hn : service.patience < n) :
    Nears S service n (.ready source) t
  | searching {m n : Nat} {display : Display} {spec : Spec} {t : Text}
      {search : Plan service.Ask service.Reply (Except SearchFailure Json)}
      (h : S.Searches hub spec t) (hopen : display.closed = false)
      (hsearch : search.EndsWithin service.answer service.waits (answerTo hub outcome spec) m)
      (hm : m < n) :
    Nears S service n (.searching display ⟨spec, effectiveLimit hub spec⟩ search) t
  | finished {n : Nat} {t : Text} : Nears S service n (.finished (.ok t)) t

variable {S : Sharing σ now known (answerTo hub outcome) first} {n : Nat} {job : Job service}
  {t : Text} {cache : σ}

theorem Nears.fault?_eq_none (h : S.Nears service n job t) : job.fault? = none := by
  cases h <;> rfl

theorem Nears.eq_finished (h : S.Nears service n job t) (hf : job.isFinished = true) :
    job = .finished (.ok t) := by
  cases h with
  | ready => cases hf
  | searching => cases hf
  | finished => rfl

theorem Nears.isFinished_of_zero (h : S.Nears service 0 job t) : job.isFinished = true := by
  cases h with
  | ready _ hn => exact absurd hn (Nat.not_lt_zero _)
  | searching _ _ _ hm => exact absurd hm (Nat.not_lt_zero _)
  | finished => rfl

theorem Searches.drive {spec : Spec} (h : S.Searches hub spec t) {display : Display}
    (hopen : display.closed = false)
    {search : Plan service.Ask service.Reply (Except SearchFailure Json)} {m : Nat}
    (hsearch : search.EndsWithin service.answer service.waits (answerTo hub outcome spec) m)
    (hm : m ≤ n) (hc : S.Reached cache) (world : ε) :
    S.Nears service n (Job.drive hub now display ⟨spec, effectiveLimit hub spec⟩ search cache
        world).1 t ∧
      S.Reached (Job.drive hub now display ⟨spec, effectiveLimit hub spec⟩ search cache world).2.1 := by
  rcases hsearch.advance world with ⟨after, hdone⟩ | ⟨k, next, after, rfl, hwait, hnext⟩
  · have hend := h.resume (s := ⟨display, cache⟩) hc hopen (effectiveLimit hub spec)
    obtain ⟨r, hr⟩ : ∃ r, r = (Cycle.resume hub now ⟨spec, effectiveLimit hub spec⟩
      (answerTo hub outcome spec)).run.run ⟨display, cache⟩ := ⟨_, rfl⟩
    rw [← hr] at hend
    obtain ⟨result, scene⟩ := r
    obtain ⟨⟨ending, rfl⟩, htext⟩ := shown_eq_ok_iff.1 hend.shown
    simp only [Job.drive, hdone, ← hr, Job.ending]
    rw [← htext]
    exact ⟨.finished, hend.reached⟩
  · simp only [Job.drive, hwait]
    exact ⟨.searching h hopen hnext hm, hc⟩

/-- Every turn brings a job nearer to its text. -/
theorem Nears.turn (h : S.Nears service (n + 1) job t) (hs : service.Answers outcome)
    (hc : S.Reached cache) (world : ε) :
    S.Nears service n (job.turn hub now false cache world).1 t ∧
      S.Reached (job.turn hub now false cache world).2.1 := by
  cases h with
  | @ready _ source _ hshows hn =>
    -- the turn that starts a search also goes on with it until it first waits
    have hstarts := hshows.starts hc
    obtain ⟨r, hr⟩ : ∃ r, r = (Cycle.start hub now source).run.run ⟨Display.blank, cache⟩ := ⟨_, rfl⟩
    rw [← hr] at hstarts
    cases hstarts with
    | finished hend =>
      obtain ⟨-, htext⟩ := shown_eq_ok_iff.1 hend.shown
      simp only [Job.turn, BlockRun.startBlock_false, ← hr]
      rw [← htext]
      exact ⟨.finished, hend.reached⟩
    | @searching spec s hsearch hafter hopen =>
      simp only [Job.turn, BlockRun.startBlock_false, ← hr]
      exact hsearch.drive hopen (hs spec.query (effectiveLimit hub spec)) (Nat.le_of_lt_succ hn)
        hafter world
  | searching hsearch hopen hends hm =>
    exact hsearch.drive hopen hends (Nat.le_of_lt_succ hm) hc world
  | finished => exact ⟨.finished, hc⟩

variable {jobs : List (Job service)} {texts : List Text}

theorem nears_turns (hs : service.Answers outcome)
    (h : List.Forall₂ (S.Nears service (n + 1)) jobs texts) (hc : S.Reached cache) (world : ε) :
    List.Forall₂ (S.Nears service n) (Crew.turns hub now false jobs cache world none).jobs texts ∧
      S.Reached (Crew.turns hub now false jobs cache world none).cache ∧
      (Crew.turns hub now false jobs cache world none).fault = none := by
  induction h generalizing cache world with
  | nil => exact ⟨.nil, hc, rfl⟩
  | @cons job t jobs texts hjob _ ih =>
    obtain ⟨hnear, hafter⟩ := hjob.turn hs hc world
    obtain ⟨hrest, hreached, hfault⟩ := ih hafter (job.turn hub now false cache world).2.2
    rw [Crew.turns]
    simp only [hnear.fault?_eq_none, Option.or_none]
    exact ⟨.cons hnear hrest, hreached, hfault⟩

theorem finished_of_nears (h : List.Forall₂ (S.Nears service n) jobs texts)
    (hall : ∀ job ∈ jobs, job.isFinished = true) :
    List.Forall₂ (fun job t => job = .finished (.ok t)) jobs texts := by
  induction h with
  | nil => exact .nil
  | cons hjob _ ih =>
    rw [List.forall_mem_cons] at hall
    exact .cons (hjob.eq_finished hall.1) (ih hall.2)

/-- With as many rounds as its jobs need, a crew has every job end with its text. -/
theorem rounds_finish (hs : service.Answers outcome) {fuel : Nat} (crew : Crew service σ)
    (h : List.Forall₂ (S.Nears service fuel) crew.jobs texts) (hc : S.Reached crew.cache)
    (hf : crew.fault = none) (left : Nat) :
    List.Forall₂ (fun job t => job = .finished (.ok t))
        (crew.rounds hub now false fuel (left + 1)).jobs texts ∧
      (crew.rounds hub now false fuel (left + 1)).fault = none := by
  -- no job faults, so the rounds behind a fault are never counted off
  induction fuel generalizing crew with
  | zero =>
    constructor
    · apply h.imp
      intro job t hjob
      exact hjob.eq_finished hjob.isFinished_of_zero
    · exact hf
  | succ fuel ih =>
    rw [Crew.rounds]
    split
    · next hall =>
      rw [List.all_eq_true] at hall
      exact ⟨finished_of_nears h hall, hf⟩
    · obtain ⟨hnear, hreached, hfault⟩ := nears_turns hs h hc crew.world
      rw [hf]
      exact ih _ hnear hreached hfault

theorem output_of_finished (h : List.Forall₂ (fun (job : Job service) t => job = .finished (.ok t))
    jobs texts) : jobs.map (·.output) = texts := by
  induction h with
  | nil => rfl
  | cons hjob _ ih =>
    rw [List.map_cons, ih, hjob]
    rfl

/-- A document is rendered to what each of its blocks shows alone. -/
theorem render_eq_ok (S : Sharing σ now known (answerTo hub outcome) first)
    (hs : service.Answers outcome) {document : Text}
    (h : List.Forall₂ (S.Shows hub) (Document.sources (Document.segments document)) texts)
    (world : ε) :
    (Document.render service hub now false document first world).1 =
      .ok (Document.replaceFences (Document.segments document) texts) := by
  have hready : List.Forall₂ (S.Nears service (service.patience + 2))
      ((Document.sources (Document.segments document)).map .ready) texts := by
    rw [List.forall₂_map_left_iff]
    apply h.imp
    intro source t hshows
    exact .ready hshows (by omega)
  obtain ⟨hjobs, hfault⟩ := rounds_finish hs ⟨_, first, world, none⟩ hready S.initial rfl 2
  simp only [Document.render, Crew.grace, hfault, output_of_finished hjobs]

end Sharing

end QueryFence
