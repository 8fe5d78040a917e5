import QueryFence.Proofs.Rounds.Alone
import QueryFence.Proofs.Rounds.Patience

/-!
The client of the search service as the service of a document. Where a reply depends on its request
only, an answer depends on query and limit only, and no search waits more often than once for each
attempt with each account.
-/

namespace QueryFence

variable {ε : Type}

/-- Where a reply depends on its question only, a plan comes to the same end from every state of the
world. -/
theorem Plan.WaitsWithin.endsWithin {Ask : Type} {Reply : Ask → Type} {α : Type}
    {answer : (q : Ask) → ε → Reply q × ε} {waits : Ask → Bool} {reply : (q : Ask) → Reply q}
    (h : ∀ q world, (answer q world).1 = reply q) {p : Plan Ask Reply α} {n : Nat}
    (hp : p.WaitsWithin waits n) (world : ε) :
    p.EndsWithin answer waits (p.run answer world).1 n := by
  induction hp generalizing world with
  | done => exact .done
  | @ask n question next hask _ ih =>
    refine .ask hask fun other => ?_
    rw [Plan.run_ask, h question other, h question world]
    exact ih _ _
  | @wait n question next hask _ ih =>
    refine .wait hask fun other => ?_
    rw [Plan.run_ask, h question other, h question world]
    exact ih _ _

namespace Jira

variable {answer : (q : Action) → ε → q.Reply × ε}

/-- Where a reply depends on its request only, the answers of the client are those that it gives in any
one state of the world. -/
theorem service_answers (reply : (q : Action) → q.Reply)
    (h : ∀ q world, (answer q world).1 = reply q) (c : Client) (world : ε) :
    (service c answer).Answers fun query limit => ((search c query limit).run answer world).1 :=
  fun query limit => (search_waitsWithin c query limit).endsWithin h world

end Jira

end QueryFence
