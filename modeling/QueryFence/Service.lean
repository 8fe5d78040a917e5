import QueryFence.Jira.Client

/-!
Search services as a document sees them: a plan for each search, and a world that answers what the
plans ask.
-/

namespace QueryFence

/-- A search service over a world of states `ε`. -/
structure Service (ε : Type) where
  Ask : Type
  Reply : Ask → Type
  search : Text → Int → Plan Ask Reply (Except SearchFailure Json)
  answer : (q : Ask) → ε → Reply q × ε
  /-- Whether others are let run while a question is answered. -/
  waits : Ask → Bool
  /-- No search waits more often than this. -/
  patience : Nat

/-- The service that the client of some settings talks to. -/
def Jira.service {ε : Type} (c : Client) (answer : (q : Action) → ε → q.Reply × ε) : Service ε where
  Ask := Action
  Reply := Action.Reply
  search := search c
  answer := answer
  waits := Action.waits
  patience := c.accounts.length * (c.maxRetries + 1).toNat

namespace Rehearsal

/-- A service of outcomes that are laid down beforehand, and the searches that took them. -/
structure Script where
  outcomes : List (Except SearchFailure Json)
  calls : List (Text × Int)

/-- What a rehearsed search does: it takes the next outcome, and waits. -/
inductive Action
  | take (query : Text) (limit : Int)
  | wait

abbrev Action.Reply : Action → Type
  | .take _ _ => Except SearchFailure Json
  | .wait => Unit

/-- The next outcome; the last one is repeated. -/
def Script.next (s : Script) : Except SearchFailure Json × List (Except SearchFailure Json) :=
  match s.outcomes with
  | [] => (.error (.other []), [])
  | [last] => (last, [last])
  | first :: rest => (first, rest)

def answer : (q : Action) → Script → q.Reply × Script
  | .take query limit, s => (s.next.1, ⟨s.next.2, s.calls ++ [(query, limit)]⟩)
  | .wait, s => ((), s)

/-- Waits so many times and then ends with an outcome. -/
def hold (outcome : Except SearchFailure Json) :
    Nat → Plan Action Action.Reply (Except SearchFailure Json)
  | 0 => .done outcome
  | n + 1 => .ask .wait fun _ => hold outcome n

/-- The rehearsed service whose searches wait so many times. -/
def service (waits : Nat) : Service Script where
  Ask := Action
  Reply := Action.Reply
  search query limit := .ask (.take query limit) fun outcome => hold outcome waits
  answer := answer
  waits := fun
    | .take _ _ => false
    | .wait => true
  patience := waits

end Rehearsal

end QueryFence
