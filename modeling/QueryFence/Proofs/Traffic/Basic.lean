import QueryFence.Proofs.Calendar.Iso
import QueryFence.Proofs.Cycle

/-!
Cycles that overlap: any number of blocks are rendered and refreshed on one cache, each cycle is
stopped only where it waits for its search, and the searches are answered in any order.
-/

namespace QueryFence

/-- How far a cycle has come. -/
inductive Stage
  | searching (pending : Pending)
  | ended (result : Except Fault Outcome)

/-- A cycle among others: the text it reads its block from, its display, and how far it has come. -/
structure Errand where
  source : Text
  display : Display
  stage : Stage

/-- A search that was answered. -/
structure Answer where
  pending : Pending
  outcome : Except SearchFailure Json

/-- What may happen at an instant. -/
inductive Event
  | render (source : Text)
  | refresh (spec : Spec)
  /-- The search of a cycle is answered; cycles are numbered in the order in which they began. -/
  | answer (index : Nat) (outcome : Except SearchFailure Json)

/-- Cycles that share a cache, with the searches asked for and those answered. -/
structure Traffic (σ : Type) where
  cache : σ
  errands : List Errand
  /-- The query and the limit of every search, in the order in which they were asked for. -/
  calls : List (Text × Int)
  /-- The answered searches, the last one first. -/
  answers : List Answer

namespace Traffic

variable {σ : Type}

/-- A cache before any cycle. -/
def quiet (cache : σ) : Traffic σ := ⟨cache, [], [], []⟩

/-- The cycles with one more, as it came to its search or to its end. -/
def launch (t : Traffic σ) (source : Text) : Except Fault Begun × Scene σ → Traffic σ
  | (.ok (.searching p), s) =>
    { t with
      cache := s.cache
      errands := t.errands ++ [⟨source, s.display, .searching p⟩]
      calls := t.calls ++ [(p.spec.query, p.limit)] }
  | (.ok (.finished outcome), s) =>
    { t with
      cache := s.cache
      errands := t.errands ++ [⟨source, s.display, .ended (.ok outcome)⟩] }
  | (.error fault, s) =>
    { t with
      cache := s.cache
      errands := t.errands ++ [⟨source, s.display, .ended (.error fault)⟩] }

/-- The cycles after one of them, at a place among them, was resumed with the answer to its search. -/
def settle (t : Traffic σ) (index : Nat) (source : Text) (answer : Answer) :
    Except Fault Outcome × Scene σ → Traffic σ
  | (result, s) =>
    { t with
      cache := s.cache
      errands := t.errands.set index ⟨source, s.display, .ended result⟩
      answers := answer :: t.answers }

theorem launch_cache (t : Traffic σ) (source : Text) (r : Except Fault Begun × Scene σ) :
    (t.launch source r).cache = r.2.cache := by
  rcases r with ⟨_ | _ | _, s⟩ <;> rfl

theorem launch_errands (t : Traffic σ) (source : Text) (r : Except Fault Begun × Scene σ) :
    ∃ stage, (t.launch source r).errands = t.errands ++ [⟨source, r.2.display, stage⟩] := by
  rcases r with ⟨_ | _ | _, s⟩ <;> exact ⟨_, rfl⟩

variable [ResultCache σ]

/-- What an event does. An answer that no cycle waits for changes nothing. -/
def step (hub : Hub) (t : Traffic σ) (now : Instant) : Event → Traffic σ
  | .render source =>
    t.launch source ((Cycle.start hub now source).run.run ⟨Display.blank, t.cache⟩)
  | .refresh spec =>
    t.launch (spec.write hub.settings)
      ((Cycle.startOver hub now spec).run.run ⟨Display.blank, t.cache⟩)
  | .answer index outcome =>
    match t.errands[index]? with
    | some ⟨source, display, .searching p⟩ =>
      t.settle index source ⟨p, outcome⟩
        ((Cycle.resume hub now p outcome).run.run ⟨display, t.cache⟩)
    | _ => t

/-- What events do one after the other, each at its instant. -/
def run (hub : Hub) (t : Traffic σ) (events : List (Instant × Event)) : Traffic σ :=
  events.foldl (fun t event => t.step hub event.1 event.2) t

variable {hub : Hub}

/-- What every event keeps holds after all of them. -/
theorem run_invariant {P : Traffic σ → Prop} {events : List (Instant × Event)}
    (hstep : ∀ t event, event ∈ events → P t → P (t.step hub event.1 event.2)) {t : Traffic σ}
    (h : P t) : P (t.run hub events) := by
  induction events generalizing t with
  | nil => exact h
  | cons event events ih =>
    exact ih (fun t e he => hstep t e (List.mem_cons_of_mem _ he))
      (hstep t event List.mem_cons_self h)

section Waiting

variable {t : Traffic σ} {index : Nat} {e : Errand}

/-- A cycle stays as it is until its own search is answered. -/
theorem step_errand (h : t.errands[index]? = some e) {now : Instant} {event : Event}
    (hother : ∀ outcome, event ≠ .answer index outcome) :
    (t.step hub now event).errands[index]? = some e := by
  have hlaunch : ∀ source (r : Except Fault Begun × Scene σ),
      (t.launch source r).errands[index]? = some e := by
    intro source r
    obtain ⟨new, hnew⟩ := launch_errands t source r
    rw [hnew, List.getElem?_append_left (List.getElem?_eq_some_iff.1 h).1, h]
  cases event with
  | render source => exact hlaunch _ _
  | refresh spec => exact hlaunch _ _
  | answer other outcome =>
    have hne : other ≠ index := fun heq => hother outcome (heq ▸ rfl)
    simp only [step]
    split
    · exact (List.getElem?_set_ne hne).trans h
    · exact h

theorem run_errand (h : t.errands[index]? = some e) {events : List (Instant × Event)}
    (hothers : ∀ event ∈ events, ∀ outcome, event.2 ≠ .answer index outcome) :
    (t.run hub events).errands[index]? = some e :=
  run_invariant (P := fun t => t.errands[index]? = some e)
    (fun _ event he h => step_errand h (hothers event he)) h

end Waiting

end Traffic

/-- Events of a clock that tells the time, with answers that are results or failures. -/
structure Event.IsUsual (event : Instant × Event) : Prop where
  time : event.1.IsTold
  answer : ∀ index outcome, event.2 = .answer index outcome → Cycle.IsSearchOutcome outcome

end QueryFence
