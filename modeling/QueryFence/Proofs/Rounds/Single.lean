import QueryFence.Proofs.Rounds.Alone
import QueryFence.Proofs.Rounds.Patience

/-!
A document with one block. Its only job never waits for another one, so the rounds bring it to where its
cycle comes when it is followed from its start to its end.
-/

namespace QueryFence

open QueryFence.Cycle

variable {σ ε : Type} {service : Service ε} {hub : Hub} {now : Instant} {refresh : Bool}

namespace Crew

/-- A crew whose only job has ended. -/
def ended (service : Service ε) (result : Except Fault Text) (cache : σ) (world : ε) :
    Crew service σ :=
  ⟨[.finished result], cache, world, (Job.finished result : Job service).fault?⟩

/-- A crew of one job, as a turn has left it. -/
def ofTurn (turned : Job service × σ × ε) : Crew service σ :=
  ⟨[turned.1], turned.2.1, turned.2.2, turned.1.fault?⟩

theorem ofTurn_finished (result : Except Fault Text) (cache : σ) (world : ε) :
    ofTurn (.finished result, cache, world) = ended service result cache world := rfl

end Crew

variable [ResultCache σ]

namespace Job

variable {display : Display} {pending : Pending} {cache : σ} {world after : ε}
  {search : Plan service.Ask service.Reply (Except SearchFailure Json)}

theorem drive_of_done {outcome : Except SearchFailure Json}
    (h : search.advance service.answer service.waits world = (.done outcome, false, after)) :
    drive hub now display pending search cache world =
      (.finished (shown ((resume hub now pending outcome).run.run ⟨display, cache⟩)),
        ((resume hub now pending outcome).run.run ⟨display, cache⟩).2.cache, after) := by
  simp only [drive, h]
  rcases (resume hub now pending outcome).run.run ⟨display, cache⟩ with ⟨fault | ending, s⟩
  · rfl
  · rfl

theorem drive_of_wait {next : Plan service.Ask service.Reply (Except SearchFailure Json)}
    (h : search.advance service.answer service.waits world = (next, true, after)) :
    drive hub now display pending search cache world = (.searching display pending next, cache, after) := by
  simp only [drive, h]

end Job

namespace Crew

theorem rounds_ended (fuel left : Nat) (result : Except Fault Text) (cache : σ) (world : ε) :
    (ended service result cache world).rounds hub now refresh fuel left =
      ended service result cache world := by
  cases fuel with
  | zero => rw [rounds]
  | succ fuel =>
    cases left with
    | zero =>
      rw [rounds]
      exact Nat.succ_ne_zero _
    | succ left =>
      rw [rounds, if_pos]
      rfl

theorem rounds_turn (fuel left : Nat) {job : Job service} (hjob : job.isFinished = false)
    (cache : σ) (world : ε) :
    rounds hub now refresh (fuel + 1) (left + 1) ⟨[job], cache, world, none⟩ =
      rounds hub now refresh fuel (left + 1) (ofTurn (job.turn hub now refresh cache world)) := by
  have hall : ([job].all fun job => job.isFinished) = false := by
    rw [List.all_cons, hjob, Bool.false_and]
  rw [rounds]
  simp only [hall, Bool.false_eq_true, if_false, Option.isSome_none]
  rfl

/-- Rounds enough bring a search to its end, and its cycle with it. -/
theorem rounds_drive {n : Nat} {display : Display} {pending : Pending}
    {search : Plan service.Ask service.Reply (Except SearchFailure Json)}
    (h : search.WaitsWithin service.waits n) {fuel : Nat} (hn : n ≤ fuel) (left : Nat) (cache : σ)
    (world : ε) :
    rounds hub now refresh fuel (left + 1)
        (ofTurn (Job.drive hub now display pending search cache world)) =
      ended service
        (shown ((resume hub now pending (search.run service.answer world).1).run.run ⟨display, cache⟩))
        ((resume hub now pending (search.run service.answer world).1).run.run ⟨display, cache⟩).2.cache
        (search.run service.answer world).2 := by
  -- a search that still waits has a round left for each time it does
  induction fuel generalizing n search world with
  | zero =>
    rcases h.advance world with hdone | ⟨m, next, after, rfl, -⟩
    · rw [Job.drive_of_done hdone, ofTurn_finished, rounds_ended]
    · exact absurd hn (Nat.not_succ_le_zero m)
  | succ fuel ih =>
    rcases h.advance world with hdone | ⟨m, next, after, rfl, hwait, hrun, hnext⟩
    · rw [Job.drive_of_done hdone, ofTurn_finished, rounds_ended]
    · rw [Job.drive_of_wait hwait, hrun]
      refine Eq.trans ?_ (ih hnext (Nat.le_of_succ_le_succ hn) after)
      exact rounds_turn fuel left rfl cache after

end Crew

namespace BlockRun

/-- What a run comes to: its text or its fault, with the cache and the world that it leaves. -/
def remains (run : BlockRun σ ε) : Except Fault Text × σ × ε :=
  (run.shown, run.scene.cache, run.world)

/-- The rounds of a single block come to what following its cycle comes to. -/
theorem rounds_ready (hpatient : service.IsPatient) (source : Text) (cache : σ) (world : ε) (left : Nat)
    {run : BlockRun σ ε}
    (h : follow service hub now false (startBlock hub now refresh source) cache world = run) :
    Crew.rounds hub now refresh (service.patience + 2) (left + 1)
        ⟨[(Job.ready source : Job service)], cache, world, none⟩ =
      Crew.ended service run.shown run.scene.cache run.world := by
  rw [Crew.rounds_turn _ _ rfl, Job.turn, ← h, follow]
  rcases (startBlock hub now refresh source).run.run ⟨Display.blank, cache⟩ with
    ⟨fault | ⟨outcome | pending⟩, s⟩
  · exact Crew.rounds_ended _ _ _ _ _
  · exact Crew.rounds_ended _ _ _ _ _
  · exact Crew.rounds_drive (hpatient pending.spec.query pending.limit) (Nat.le_succ _) left s.cache world

end BlockRun

/-- A document that is one fence is rendered to what its block shows by itself. -/
theorem Document.render_fence (hpatient : service.IsPatient) {document opening source closing : Text}
    (h : segments document = [.fence opening source closing]) (cache : σ) (world : ε) :
    render service hub now refresh document cache world =
      (BlockRun.follow service hub now false (startBlock hub now refresh source) cache world).remains := by
  have hsources : ((sources (segments document)).map Job.ready : List (Job service)) =
      [.ready source] := by
    rw [h]
    rfl
  obtain ⟨run, hrun⟩ : ∃ run, BlockRun.follow service hub now false
      (startBlock hub now refresh source) cache world = run := ⟨_, rfl⟩
  rw [render, hsources, Crew.grace, BlockRun.rounds_ready hpatient source cache world 2 hrun, h, hrun,
    BlockRun.remains]
  cases run.shown with
  | error fault => rfl
  | ok t =>
    simp only [Crew.ended, Job.fault?, List.map_cons, List.map_nil, Job.output, replaceFences,
      List.append_nil]

end QueryFence
