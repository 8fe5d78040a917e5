/-!
Plans: programs that ask something of the world outside, go on with the reply, and end with a
result. What a plan asks is data, so that a run can be stopped, resumed and compared at every
question.
-/

namespace QueryFence

/-- A program over questions, each with its type of replies. -/
inductive Plan (Ask : Type) (Reply : Ask → Type) (α : Type) : Type
  | done (result : α)
  | ask (question : Ask) (next : Reply question → Plan Ask Reply α)

namespace Plan

variable {Ask : Type} {Reply : Ask → Type} {α β σ : Type}

/-- Goes on with the result of a plan. -/
def andThen : Plan Ask Reply α → (α → Plan Ask Reply β) → Plan Ask Reply β
  | .done a, f => f a
  | .ask q next, f => .ask q fun r => (next r).andThen f

instance : Monad (Plan Ask Reply) where
  pure := .done
  bind := .andThen

/-- The plan that asks one question. -/
def query (q : Ask) : Plan Ask Reply (Reply q) := .ask q .done

/-- The result of a plan whose questions are answered out of a state. -/
def run (answer : (q : Ask) → σ → Reply q × σ) : Plan Ask Reply α → σ → α × σ
  | .done a, s => (a, s)
  | .ask q next, s => (next (answer q s).1).run answer (answer q s).2

/-- Runs a plan until it has asked a question for which others are waited, or to its end. -/
def advance (answer : (q : Ask) → σ → Reply q × σ) (waits : Ask → Bool) :
    Plan Ask Reply α → σ → Plan Ask Reply α × Bool × σ
  | .done a, s => (.done a, false, s)
  | .ask q next, s =>
    let (reply, s) := answer q s
    if waits q then (next reply, true, s) else (next reply).advance answer waits s

@[simp] theorem run_done (answer : (q : Ask) → σ → Reply q × σ) (a : α) (s : σ) :
    (Plan.done a : Plan Ask Reply α).run answer s = (a, s) := rfl

@[simp] theorem run_ask (answer : (q : Ask) → σ → Reply q × σ) (q : Ask)
    (next : Reply q → Plan Ask Reply α) (s : σ) :
    (Plan.ask q next).run answer s = (next (answer q s).1).run answer (answer q s).2 := rfl

theorem run_andThen (answer : (q : Ask) → σ → Reply q × σ) (p : Plan Ask Reply α)
    (f : α → Plan Ask Reply β) (s : σ) :
    (p.andThen f).run answer s = (f (p.run answer s).1).run answer (p.run answer s).2 := by
  induction p generalizing s with
  | done a => rfl
  | ask q next ih => exact ih _ _

end Plan

end QueryFence
