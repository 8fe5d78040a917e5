import Mathlib.Data.Nat.Find
import QueryFence.Proofs.Jira.Ending

/-!
Retries. A request that is refused for coming too soon should be sent again, each time after a pause of
its own and as often as retries are allowed, and the last answer alone should decide. It is so as long as
the attempts can be counted off and the request can be made.
-/

namespace QueryFence.Jira

/-- Requests are answered out of a sequence, one after the other. -/
def inSequence (answers : Nat → Response) : (q : Action) → Nat → q.Reply × Nat
  | .pause _, n => ((), n)
  | .send _, n => (answers n, n + 1)

/-- How many answers of a sequence ask to come back before the first that does not, if one does not. -/
inductive StartsWithRefusals (answers : Nat → Response) : Option Nat → Prop
  | upTo (k : Nat) (hbefore : ∀ i < k, isRateLimited (answers i) = true)
      (hnot : isRateLimited (answers k) = false) : StartsWithRefusals answers (some k)
  | always (hall : ∀ i, isRateLimited (answers i) = true) : StartsWithRefusals answers none

/-- The number of retries, of those that are allowed, that answers of which so many ask to come back
lead to. -/
def retriesFor (allowed : Nat) : Option Nat → Nat
  | some k => min allowed k
  | none => allowed

/-- What is asked in an attempt. -/
def attemptActions (factor : Binary64) (r : Request) (n : Nat) : List Action :=
  [.pause (delay factor n), .send r]

/-- The failure of a request without attempts left. -/
def exhausted : SearchFailure := .fetch "Maximum retries exceeded for rate limited requests"

/-- A request that is sent once and so many times again, and that its last answer decides. -/
structure IsRetried (c : Client) (account : Account) (path : Text) (parameters : List (Text × Text))
    (answers : Nat → Response) (retries : Nat) : Prop where
  asked : ∃ r, request account path parameters = .ok r ∧
    (get c account path parameters).asked (inSequence answers) 0 =
      (List.range (retries + 1)).flatMap (attemptActions c.backoff r)
  outcome : ((get c account path parameters).run (inSequence answers) 0).1 =
    conclude account (answers retries)
  told : ((get c account path parameters).run (inSequence answers) 0).1 ≠ .error exhausted

/-- Whatever the answers, a request is sent again for each that asks to come back, as often as allowed. -/
def RetriesExactly (c : Client) (account : Account) (path : Text) (parameters : List (Text × Text)) :
    Prop :=
  ∀ answers, ∃ refusals, StartsWithRefusals answers refusals ∧
    IsRetried c account path parameters answers (retriesFor c.maxRetries.toNat refusals)

/-- A plan that asks for some actions and comes to an outcome, its requests being answered from the
`n`-th answer on. -/
structure RunsTo (answers : Nat → Response) (plan : ClientPlan Json) (n : Nat) (actions : List Action)
    (outcome : Except SearchFailure Json) : Prop where
  asked : plan.asked (inSequence answers) n = actions
  outcome : (plan.run (inSequence answers) n).1 = outcome

section Answers

variable {answers : Nat → Response} {refusals : Option Nat}

theorem exists_startsWithRefusals (answers : Nat → Response) :
    ∃ refusals, StartsWithRefusals answers refusals := by
  by_cases hany : ∃ k, isRateLimited (answers k) = false
  · refine ⟨some (Nat.find hany), .upTo _ (fun i hi => ?_) (Nat.find_spec hany)⟩
    exact Bool.of_not_eq_false (Nat.find_min hany hi)
  · refine ⟨none, .always fun i => ?_⟩
    exact Bool.of_not_eq_false fun hnot => hany ⟨i, hnot⟩

theorem retriesFor_le (allowed : Nat) : retriesFor allowed refusals ≤ allowed := by
  cases refusals with
  | none => exact le_rfl
  | some k => exact Nat.min_le_left allowed k

/-- Every answer before the last one asks to come back. -/
theorem StartsWithRefusals.before (h : StartsWithRefusals answers refusals) (allowed : Nat) :
    ∀ i < retriesFor allowed refusals, isRateLimited (answers i) = true := by
  cases h with
  | upTo k hbefore _ => exact fun i hi => hbefore i (Nat.lt_min.1 hi).2
  | always hall => exact fun i _ => hall i

/-- The last one does not, unless no retry is left. -/
theorem StartsWithRefusals.last (h : StartsWithRefusals answers refusals) (allowed : Nat) :
    retriesFor allowed refusals = allowed ∨
      isRateLimited (answers (retriesFor allowed refusals)) = false := by
  cases h with
  | always => exact .inl rfl
  | upTo k _ hnot =>
    rcases Nat.le_total allowed k with hle | hle
    · exact .inl (Nat.min_eq_left hle)
    · right
      rw [retriesFor, Nat.min_eq_right hle]
      exact hnot

end Answers

section Failures

variable {account : Account}

theorem head?_of_statusMessage {status : Nat} {body message : Text}
    (h : statusMessage status body = .ok message) : message.head? = some 'J' := by
  rw [statusMessage] at h
  split at h
  · cases h
    rfl
  · obtain ⟨told, -, h⟩ := Steps.bind_eq_ok_iff.1 h
    cases h
    rfl

theorem fetch_ne_exhausted {message : Text} (h : message.head? ≠ some 'M') :
    (.error (.fetch message) : Except SearchFailure Json) ≠ .error exhausted := by
  intro hsame
  cases hsame
  exact h rfl

/-- No answer is told to have used up the attempts. -/
theorem conclude_ne_exhausted (response : Response) :
    conclude account response ≠ .error exhausted := by
  cases response with
  | timedOut => exact fetch_ne_exhausted (by simp)
  | failed reason => exact fetch_ne_exhausted (by simp)
  | invalidUrl message => rintro ⟨⟩
  | cookieConflict message => rintro ⟨⟩
  | answered status body =>
    rw [conclude]
    split
    · cases Json.readBody body with
      | ok v => rintro ⟨⟩
      | error e => exact fetch_ne_exhausted (by simp)
    · cases hmessage : statusMessage status body with
      | error fault => rintro ⟨⟩
      | ok message =>
        apply fetch_ne_exhausted
        rw [head?_of_statusMessage hmessage]
        decide

end Failures

section Attempts

variable {c : Client} {account : Account} {path : Text} {parameters : List (Text × Text)}
  {answers : Nat → Response} {r : Request} {left n : Nat} {actions : List Action}
  {outcome : Except SearchFailure Json}

theorem settle_of_refusal (h : r.refusal? = none) (response : Response) :
    r.settle response = response := by
  cases response with
  | answered status body => rw [Request.settle, h]
  | timedOut | failed | invalidUrl | cookieConflict => rfl

/-- An attempt whose answer decides is the last one. -/
theorem runsTo_of_decided (hr : request account path parameters = .ok r) (hnone : r.refusal? = none)
    (h : (isRateLimited (answers n) && left != 0) = false) :
    RunsTo answers (attempts c account path parameters (left + 1) n) n
      (attemptActions c.backoff r n) (conclude account (answers n)) := by
  constructor
  · simp only [attempts, hr, Plan.asked, inSequence, settle_of_refusal hnone, h]
    rfl
  · simp only [attempts, hr, Plan.run_ask, inSequence, settle_of_refusal hnone, h]
    rfl

/-- An attempt that is asked to come back stands before the others. -/
theorem RunsTo.again (hr : request account path parameters = .ok r) (hnone : r.refusal? = none)
    (h : isRateLimited (answers n) = true)
    (hrest : RunsTo answers (attempts c account path parameters (left + 1) (n + 1)) (n + 1)
      actions outcome) :
    RunsTo answers (attempts c account path parameters (left + 1 + 1) n) n
      (attemptActions c.backoff r n ++ actions) outcome := by
  obtain ⟨hasked, hrun⟩ := hrest
  have hgoes : (isRateLimited (answers n) && left + 1 != 0) = true := by
    rw [h]
    rfl
  rw [attempts, hr]
  constructor
  · simp only [Plan.asked, inSequence, settle_of_refusal hnone, hgoes, if_true, hasked]
    rfl
  · simp only [Plan.run_ask, inSequence, settle_of_refusal hnone, hgoes, if_true, hrun]

/-- Attempts are made up to the first answer that decides. -/
theorem attempts_runsTo (hr : request account path parameters = .ok r) (hnone : r.refusal? = none)
    {retries : Nat} (hle : retries ≤ left)
    (hbefore : ∀ i < retries, isRateLimited (answers (n + i)) = true)
    (hlast : retries = left ∨ isRateLimited (answers (n + retries)) = false) :
    RunsTo answers (attempts c account path parameters (left + 1) n) n
      ((List.range' n (retries + 1)).flatMap (attemptActions c.backoff r))
      (conclude account (answers (n + retries))) := by
  induction retries generalizing left n with
  | zero =>
    have hdecides : (isRateLimited (answers n) && left != 0) = false := by
      rcases hlast with rfl | hnot
      · exact Bool.and_false _
      · exact Bool.and_eq_false_imp.2 fun hyes => absurd (hyes.symm.trans hnot) nofun
    exact runsTo_of_decided hr hnone hdecides
  | succ retries ih =>
    obtain ⟨rest, rfl⟩ : ∃ rest, left = rest + 1 := ⟨left - 1, by omega⟩
    have hshift (i : Nat) : n + 1 + i = n + (i + 1) := by omega
    rw [List.range'_succ, List.flatMap_cons, ← hshift retries]
    apply RunsTo.again hr hnone (hbefore 0 (Nat.succ_pos retries))
    apply ih (Nat.le_of_succ_le_succ hle)
    · intro i hi
      rw [hshift]
      exact hbefore (i + 1) (Nat.succ_lt_succ hi)
    · rw [hshift]
      exact hlast.imp_left Nat.succ_inj.1

end Attempts

section Gets

variable {c : Client} {account : Account} {path : Text} {parameters : List (Text × Text)}
  {answers : Nat → Response} {retries : Nat} {r : Request}

theorem get_runsTo {refusals : Option Nat} (h : 0 ≤ c.maxRetries)
    (hcount : c.maxRetries < countLimit) (hr : request account path parameters = .ok r)
    (hnone : r.refusal? = none) (hrefusals : StartsWithRefusals answers refusals) :
    RunsTo answers (get c account path parameters) 0
      ((List.range (retriesFor c.maxRetries.toNat refusals + 1)).flatMap (attemptActions c.backoff r))
      (conclude account (answers (retriesFor c.maxRetries.toNat refusals))) := by
  rw [get_eq_attempts h hcount, List.range_eq_range']
  generalize c.maxRetries.toNat = allowed
  have hbefore : ∀ i < retriesFor allowed refusals, isRateLimited (answers (0 + i)) = true := by
    simpa only [Nat.zero_add] using hrefusals.before allowed
  have hlast : retriesFor allowed refusals = allowed ∨
      isRateLimited (answers (0 + retriesFor allowed refusals)) = false := by
    simpa only [Nat.zero_add] using hrefusals.last allowed
  have hruns := attempts_runsTo (c := c) hr hnone (retriesFor_le allowed) hbefore hlast
  rwa [Nat.zero_add] at hruns

theorem RunsTo.isRetried (hr : request account path parameters = .ok r)
    (h : RunsTo answers (get c account path parameters) 0
      ((List.range (retries + 1)).flatMap (attemptActions c.backoff r))
      (conclude account (answers retries))) :
    IsRetried c account path parameters answers retries := by
  refine ⟨⟨r, hr, h.asked⟩, h.outcome, ?_⟩
  rw [h.outcome]
  exact conclude_ne_exhausted (answers retries)

theorem IsRetried.countable
    (hretried : IsRetried c account path parameters answers retries) :
    c.maxRetries < countLimit := by
  by_contra hmany
  obtain ⟨r, -, hasked⟩ := hretried.asked
  rw [get, if_neg (by omega), List.range_succ_eq_map] at hasked
  cases hasked

/-- Answers to a request that is retried can be taken: one that holds a value gives it. -/
theorem IsRetried.refusal_eq_none (h : 0 ≤ c.maxRetries)
    (hr : request account path parameters = .ok r)
    (hretried : IsRetried c account path parameters (fun _ => .answered 200 "null") retries) :
    r.refusal? = none := by
  cases hrefusal : r.refusal? with
  | none => rfl
  | some reason =>
    have hrun := hretried.outcome
    rw [get_eq_attempts h hretried.countable, attempts, hr] at hrun
    simp only [Plan.run_ask, inSequence, Request.settle, hrefusal, isRateLimited, Bool.false_and] at hrun
    cases hrun

/-- A request is retried exactly where the attempts can be counted off and the request can be made. -/
theorem retriesExactly_iff (h : 0 ≤ c.maxRetries) :
    RetriesExactly c account path parameters ↔
      c.maxRetries < countLimit ∧
        ∃ r, request account path parameters = .ok r ∧ r.refusal? = none := by
  constructor
  · intro hall
    obtain ⟨refusals, -, hnull⟩ := hall fun _ => .answered 200 "null"
    obtain ⟨r, hr, -⟩ := hnull.asked
    exact ⟨hnull.countable, r, hr, hnull.refusal_eq_none h hr⟩
  · rintro ⟨hcount, r, hr, hnone⟩ answers
    obtain ⟨refusals, hrefusals⟩ := exists_startsWithRefusals answers
    exact ⟨refusals, hrefusals, (get_runsTo h hcount hr hnone hrefusals).isRetried hr⟩

/-- A service without authorization. -/
def openAccount : Account := ⟨"Default", "http://h", .none, [], [], [], 1, "#000000"⟩

def openClient (maxRetries : Int) : Client := ⟨[openAccount], maxRetries, usualBackoff⟩

/-- Five retries are made. With as many as a machine word can hold the attempts cannot be counted off. -/
theorem not_retriesExactly_of_countLimit :
    (0 ≤ (openClient 5).maxRetries ∧
      RetriesExactly (openClient 5) openAccount searchPath (searchParameters "q" 10)) ∧
    (0 ≤ (openClient 9223372036854775807).maxRetries ∧
      ¬ RetriesExactly (openClient 9223372036854775807) openAccount searchPath
        (searchParameters "q" 10)) := by
  have hmade : ∃ r, request openAccount searchPath (searchParameters "q" 10) = .ok r ∧
      r.refusal? = none :=
    ⟨_, rfl, by decide +kernel⟩
  constructor
  · exact ⟨by decide, (retriesExactly_iff (by decide)).2 ⟨by decide, hmade⟩⟩
  · exact ⟨by decide, fun hall => absurd ((retriesExactly_iff (by decide)).1 hall).1 (by decide)⟩

end Gets

end QueryFence.Jira
