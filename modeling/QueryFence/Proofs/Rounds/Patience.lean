import QueryFence.Service

/-!
How often a plan waits. Whatever it is replied, a search of the client waits at most once for each attempt
with each account.
-/

namespace QueryFence

section Plans

variable {Ask : Type} {Reply : Ask → Type} {α β ε : Type} {answer : (q : Ask) → ε → Reply q × ε}
  {waits : Ask → Bool} {m n : Nat}

/-- Whatever it is replied, a plan waits no more often than so many times. -/
inductive Plan.WaitsWithin (waits : Ask → Bool) : Nat → Plan Ask Reply α → Prop
  | done {n : Nat} {result : α} : WaitsWithin waits n (.done result)
  | ask {n : Nat} {question : Ask} {next : Reply question → Plan Ask Reply α}
      (hask : waits question = false) (hnext : ∀ reply, WaitsWithin waits n (next reply)) :
      WaitsWithin waits n (.ask question next)
  | wait {n : Nat} {question : Ask} {next : Reply question → Plan Ask Reply α}
      (hask : waits question = true) (hnext : ∀ reply, WaitsWithin waits n (next reply)) :
      WaitsWithin waits (n + 1) (.ask question next)

theorem Plan.WaitsWithin.mono {p : Plan Ask Reply α} (h : p.WaitsWithin waits m) (hmn : m ≤ n) :
    p.WaitsWithin waits n := by
  induction h generalizing n with
  | done => exact .done
  | ask hask _ ih => exact .ask hask fun reply => ih reply hmn
  | wait hask _ ih =>
    obtain ⟨k, rfl⟩ := Nat.exists_eq_add_of_le' (Nat.le_trans (Nat.succ_le_succ (Nat.zero_le _)) hmn)
    exact .wait hask fun reply => ih reply (Nat.le_of_succ_le_succ hmn)

theorem Plan.WaitsWithin.andThen {p : Plan Ask Reply α} {f : α → Plan Ask Reply β}
    (h : p.WaitsWithin waits m) (hf : ∀ a, (f a).WaitsWithin waits n) :
    (p.andThen f).WaitsWithin waits (m + n) := by
  induction h with
  | done => exact (hf _).mono (Nat.le_add_left _ _)
  | ask hask _ ih => exact .ask hask ih
  | wait hask _ ih =>
    rw [Nat.succ_add]
    exact .wait hask ih

/-- A plan that goes on comes to the end of its run, or waits and has one time less to wait. -/
theorem Plan.WaitsWithin.advance {p : Plan Ask Reply α} (h : p.WaitsWithin waits n) (world : ε) :
    p.advance answer waits world = (.done (p.run answer world).1, false, (p.run answer world).2) ∨
      ∃ m next after, n = m + 1 ∧ p.advance answer waits world = (next, true, after) ∧
        p.run answer world = next.run answer after ∧ next.WaitsWithin waits m := by
  induction h generalizing world with
  | done => exact .inl rfl
  | @ask n question next hask hnext ih =>
    have heq : (Plan.ask question next).advance answer waits world =
        (next (answer question world).1).advance answer waits (answer question world).2 := by
      simp only [Plan.advance, hask, Bool.false_eq_true, if_false]
    rw [heq]
    exact ih _ _
  | @wait n question next hask hnext ih =>
    refine .inr ⟨n, next (answer question world).1, (answer question world).2, rfl, ?_, rfl, hnext _⟩
    simp only [Plan.advance, hask, if_true]

end Plans

/-- No search of a service waits more often than the service allows. -/
def Service.IsPatient {ε : Type} (service : Service ε) : Prop :=
  ∀ query limit, (service.search query limit).WaitsWithin service.waits service.patience

namespace Jira

theorem attempts_waitsWithin (c : Client) (account : Account) (path : Text)
    (parameters : List (Text × Text)) (left n : Nat) :
    (attempts c account path parameters left n).WaitsWithin Action.waits left := by
  induction left generalizing n with
  | zero => exact .done
  | succ left ih =>
    refine .wait rfl fun _ => ?_
    cases request account path parameters with
    | error e => cases e <;> exact .done
    | ok r =>
      refine .ask rfl fun response => ?_
      dsimp only
      split
      · exact ih (n + 1)
      · exact .done

theorem get_waitsWithin (c : Client) (account : Account) (path : Text)
    (parameters : List (Text × Text)) :
    (get c account path parameters).WaitsWithin Action.waits (c.maxRetries + 1).toNat := by
  rw [get]
  split
  · exact attempts_waitsWithin c account path parameters _ _
  · exact .done

theorem searchIn_waitsWithin (c : Client) (query : Text) (limit : Int) (accounts : List Account)
    (last : SearchFailure) :
    (searchIn c query limit last accounts).WaitsWithin Action.waits
      (accounts.length * (c.maxRetries + 1).toNat) := by
  induction accounts generalizing last with
  | nil => exact .done
  | cons account rest ih =>
    rw [List.length_cons, Nat.succ_mul, Nat.add_comm]
    refine (get_waitsWithin c account searchPath (searchParameters query limit)).andThen fun got => ?_
    cases got with
    | ok data =>
      dsimp only
      split <;> exact .done
    | error failure =>
      cases failure with
      | fetch message => exact ih (.fetch message)
      | invalidUrl message => exact .done
      | cookieConflict message => exact .done
      | fault fault => exact .done
      | other message => exact .done

theorem search_waitsWithin (c : Client) (query : Text) (limit : Int) :
    (search c query limit).WaitsWithin Action.waits
      (c.accounts.length * (c.maxRetries + 1).toNat) := by
  have hlength : (ranked c.accounts).length = c.accounts.length := List.length_mergeSort _
  rw [search, ← hlength]
  cases ranked c.accounts with
  | nil => exact .done
  | cons account rest => exact searchIn_waitsWithin c query limit _ noAccount

theorem service_isPatient {ε : Type} (c : Client) (answer : (q : Action) → ε → q.Reply × ε) :
    (service c answer).IsPatient :=
  fun query limit => search_waitsWithin c query limit

end Jira

end QueryFence
