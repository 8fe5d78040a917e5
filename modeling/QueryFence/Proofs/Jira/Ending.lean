import QueryFence.Proofs.Jira.Fallback
import QueryFence.Proofs.Jira.Report

/-!
How a search ends. It should give results, or tell that no account could run it after each of them has
been sent a request. It does as long as responses can be read: one that cannot ends the search at once,
and keeps it from the accounts behind.
-/

namespace QueryFence

namespace Plan

variable {Ask : Type} {Reply : Ask → Type} {α σ : Type}

/-- What a plan asks in a run, with the replies. -/
def exchanges (answer : (q : Ask) → σ → Reply q × σ) :
    Plan Ask Reply α → σ → List ((q : Ask) × Reply q)
  | .done _, _ => []
  | .ask q next, s =>
    ⟨q, (answer q s).1⟩ :: (next (answer q s).1).exchanges answer (answer q s).2

end Plan

namespace Jira

open QueryFence.Steps

/-- Messages of which one text can be made: a text, the names of an object, or a list of texts. -/
def IsJoinable : Json → Prop
  | .text _ | .object _ => True
  | .list items => ∀ v ∈ items, ∃ t, v = .text t
  | .null | .bool _ | .int _ | .float _ => False

/-- A response that tells why there is no answer, or is one. -/
def IsReadable : Response → Prop
  | .timedOut | .failed _ => True
  | .invalidUrl _ | .cookieConflict _ => False
  | .answered status body =>
    if 200 ≤ status ∧ status < 300 then
      ∀ v, Json.readBody body = .ok v → ∃ members, v = .object members
    else (errorMessages body).isVoid = true ∨ IsJoinable (errorMessages body)

/-- A failure that is not told as one of the client's own does not leave the search to other accounts. -/
theorem not_isTryOutcome_error {failure : SearchFailure} (h : ∀ message, failure ≠ .fetch message) :
    ¬ IsTryOutcome (.error failure) := by
  rintro (⟨_, hsame⟩ | ⟨message, hsame⟩)
  · cases hsame
  · exact h message (Except.error.inj hsame)

section Responses

variable {messages : Json} {body : Text} {account : Account}

theorem endsWell_joinMessages_iff : EndsWell (joinMessages messages) ↔ IsJoinable messages := by
  cases messages with
  | null | bool | int | float => exact iff_of_false (not_endsWell_error _) id
  | text t => exact iff_of_true (endsWell_ok _) trivial
  | object members => exact iff_of_true (endsWell_ok _) trivial
  | list items =>
    rw [joinMessages, endsWell_bind_pure_iff, endsWell_mapM_iff]
    constructor
    · intro h v hv
      rw [← List.zipIdx_map_fst 0 items] at hv
      obtain ⟨⟨w, n⟩, hw, rfl⟩ := List.mem_map.1 hv
      obtain ⟨t, ht⟩ := h _ hw
      cases w with
      | text u => exact ⟨u, rfl⟩
      | null | bool | int | float | list | object => cases ht
    · rintro h ⟨v, n⟩ hv
      obtain ⟨t, rfl⟩ := h v (List.fst_mem_of_mem_zipIdx hv)
      exact endsWell_ok t

theorem endsWell_statusMessage_iff (status : Nat) : EndsWell (statusMessage status body) ↔
    (errorMessages body).isVoid = true ∨ IsJoinable (errorMessages body) := by
  rw [statusMessage, ← endsWell_joinMessages_iff]
  cases (errorMessages body).isVoid with
  | true => exact iff_of_true (endsWell_ok _) (.inl rfl)
  | false =>
    refine endsWell_bind_pure_iff.trans ⟨.inr, fun h => ?_⟩
    exact h.resolve_left Bool.false_ne_true

/-- An account is left or kept by a response exactly when it can be read. -/
theorem isTryOutcome_conclude_iff (response : Response) :
    IsTryOutcome (conclude account response) ↔ IsReadable response := by
  cases response with
  | timedOut => exact iff_of_true (.inr ⟨_, rfl⟩) trivial
  | failed reason => exact iff_of_true (.inr ⟨_, rfl⟩) trivial
  | invalidUrl message => exact iff_of_false (not_isTryOutcome_error (by rintro _ ⟨⟩)) id
  | cookieConflict message => exact iff_of_false (not_isTryOutcome_error (by rintro _ ⟨⟩)) id
  | answered status body =>
    rw [conclude, IsReadable]
    split
    · cases Json.readBody body with
      | error e => exact iff_of_true (.inr ⟨_, rfl⟩) (by rintro _ ⟨⟩)
      | ok v =>
        constructor
        · rintro (⟨members, h⟩ | ⟨_, h⟩)
          · rintro _ ⟨⟩
            exact ⟨members, Except.ok.inj h⟩
          · cases h
        · intro h
          obtain ⟨members, rfl⟩ := h v rfl
          exact .inl ⟨members, rfl⟩
    · rw [← endsWell_statusMessage_iff status]
      cases statusMessage status body with
      | ok message => exact iff_of_true (.inr ⟨_, rfl⟩) (endsWell_ok _)
      | error fault =>
        exact iff_of_false (not_isTryOutcome_error (by rintro _ ⟨⟩)) (not_endsWell_error _)

end Responses

/-- What came back for a question, if a request was sent. -/
def responseOf : (q : Action) × q.Reply → Option Response
  | ⟨.pause _, _⟩ => none
  | ⟨.send r, response⟩ => some (r.settle response)

section Attempts

variable {ε : Type} (answer : (q : Action) → ε → q.Reply × ε)

/-- The responses to the requests of a run. -/
def responses (plan : ClientPlan Json) (world : ε) : List Response :=
  (plan.exchanges answer world).filterMap responseOf

/-- A run that sends a request, and that its last response decides. -/
structure EndsByLast (account : Account) (r : Request) (plan : ClientPlan Json) (world : ε) :
    Prop where
  sent : .send r ∈ plan.asked answer world
  last : ∃ response, (responses answer plan world).getLast? = some response ∧
    (plan.run answer world).1 = conclude account response

variable {answer} {c : Client} {account : Account} {path : Text}
  {parameters : List (Text × Text)} {r : Request} {world : ε}

theorem endsByLast_of_done {next : Response → ClientPlan Json}
    (h : next (answer (.send r) world).1 =
      .done (conclude account (r.settle (answer (.send r) world).1))) :
    EndsByLast answer account r (.ask (.send r) next) world := by
  refine ⟨List.mem_cons_self, r.settle (answer (.send r) world).1, ?_, ?_⟩
  · rw [responses, Plan.exchanges, h]
    rfl
  · rw [Plan.run_ask, h]
    rfl

theorem EndsByLast.ask {q : Action} {next : q.Reply → ClientPlan Json}
    (h : EndsByLast answer account r (next (answer q world).1) (answer q world).2) :
    EndsByLast answer account r (.ask q next) world := by
  obtain ⟨hsent, response, hlast, hrun⟩ := h
  refine ⟨List.mem_cons_of_mem _ hsent, response, ?_, hrun⟩
  rw [responses, Plan.exchanges, List.filterMap_cons]
  split
  · exact hlast
  · rw [List.getLast?_cons, ← responses, hlast]
    rfl

/-- Attempts at a request go on until one of its responses decides. -/
theorem attempts_endsByLast (hr : request account path parameters = .ok r) (left n : Nat)
    (world : ε) :
    EndsByLast answer account r (attempts c account path parameters (left + 1) n) world := by
  induction left generalizing n world with
  | zero =>
    rw [attempts, hr]
    apply EndsByLast.ask
    apply endsByLast_of_done
    simp only [bne_self_eq_false, Bool.and_false]
    rfl
  | succ left ih =>
    rw [attempts, hr]
    apply EndsByLast.ask
    -- a response that asks to come back is not the last one, as there is an attempt left
    cases hretry : isRateLimited
        (r.settle (answer (.send r) (answer (.pause (delay c.backoff n)) world).2).1) with
    | false =>
      apply endsByLast_of_done
      simp only [hretry, Bool.false_and]
      rfl
    | true =>
      apply EndsByLast.ask
      simp only [hretry]
      exact ih (n + 1) _

/-- Where retries can be counted off, there is one attempt more than retries. -/
theorem get_eq_attempts (h : 0 ≤ c.maxRetries) (hcount : c.maxRetries < countLimit) :
    get c account path parameters =
      attempts c account path parameters (c.maxRetries.toNat + 1) 0 := by
  have hleft : (c.maxRetries + 1).toNat = c.maxRetries.toNat + 1 := by omega
  rw [get, if_pos ⟨by omega, by omega⟩, hleft]

theorem get_endsByLast (hr : request account path parameters = .ok r) (h : 0 ≤ c.maxRetries)
    (hcount : c.maxRetries < countLimit) (world : ε) :
    EndsByLast answer account r (get c account path parameters) world := by
  rw [get_eq_attempts h hcount]
  exact attempts_endsByLast hr c.maxRetries.toNat 0 world

end Attempts

section Tries

variable {ε : Type} (c : Client) (query : Text) (limit : Int)
  (answer : (q : Action) → ε → q.Reply × ε)

/-- The responses to the requests of a try. -/
def Try.responses (t : Try ε) : List Response :=
  Jira.responses answer (t.plan c query limit) t.before

/-- An account of which the client can tell how it did: its request cannot be written, or the last
response to it can be read. -/
def Try.IsTold (t : Try ε) : Prop :=
  match request t.account searchPath (searchParameters query limit) with
  | .ok _ => ∀ response, (t.responses c query limit answer).getLast? = some response →
      IsReadable response
  | .error (.unwritable _) => True
  | .error (.invalidUrl _) => False

variable {c query limit answer} {t : Try ε} {accounts : List Account} {world : ε}

theorem Try.isTryOutcome_iff (h : 0 ≤ c.maxRetries) (hcount : c.maxRetries < countLimit) :
    IsTryOutcome (t.outcome c query limit answer) ↔ t.IsTold c query limit answer := by
  rw [Try.IsTold]
  cases hr : request t.account searchPath (searchParameters query limit) with
  | ok r =>
    have hend : EndsByLast answer t.account r (t.plan c query limit) t.before :=
      get_endsByLast hr h hcount t.before
    obtain ⟨-, response, hlast, hrun⟩ := hend
    rw [Try.outcome, hrun, isTryOutcome_conclude_iff, Try.responses, hlast]
    exact ⟨fun hread _ hsame => Option.some.inj hsame ▸ hread, fun hread => hread response rfl⟩
  | error e =>
    rw [Try.outcome, Try.plan, get_eq_attempts h hcount, attempts, hr]
    cases e with
    | unwritable message => exact iff_of_true (.inr ⟨_, rfl⟩) trivial
    | invalidUrl message => exact iff_of_false (not_isTryOutcome_error (by rintro _ ⟨⟩)) id

theorem exists_members_of_resultsOf {account : Account} {data results : Json}
    (h : resultsOf account data = .ok results) : ∃ members, data = .object members := by
  cases data with
  | object members => exact ⟨members, rfl⟩
  | null | bool | int | float | text | list => cases h

/-- What ends a try otherwise than with an object or a failure to be told ends the search with it. -/
theorem Try.isTryOutcome_of_searchIn (last : SearchFailure) (accounts : List Account)
    (h : IsTryOutcome
      ((searchIn c query limit last (t.account :: accounts)).run answer t.before).1) :
    IsTryOutcome (t.outcome c query limit answer) := by
  have hrun : ((get c t.account searchPath (searchParameters query limit)).run answer t.before).1 =
      t.outcome c query limit answer := rfl
  rw [searchIn, Plan.run_andThen, hrun] at h
  cases hout : t.outcome c query limit answer with
  | ok data =>
    rw [hout] at h
    cases hresults : resultsOf t.account data with
    | ok results =>
      obtain ⟨members, rfl⟩ := exists_members_of_resultsOf hresults
      exact .inl ⟨members, rfl⟩
    | error fault =>
      simp only [hresults, Plan.run_done] at h
      exact absurd h (not_isTryOutcome_error (by rintro _ ⟨⟩))
  | error failure =>
    rw [hout] at h
    cases failure with
    | fetch message => exact .inr ⟨message, rfl⟩
    | invalidUrl | cookieConflict | fault | other => exact h

theorem isTryOutcome_of_mem_triesOf (last : SearchFailure)
    (h : IsTryOutcome ((searchIn c query limit last accounts).run answer world).1) :
    ∀ t ∈ triesOf c query limit answer accounts world,
      IsTryOutcome (t.outcome c query limit answer) := by
  induction accounts generalizing world last with
  | nil => exact fun t ht => absurd ht List.not_mem_nil
  | cons account rest ih =>
    intro t ht
    have hfirst := (⟨account, world⟩ : Try ε).isTryOutcome_of_searchIn last rest h
    rw [triesOf] at ht
    rcases hfirst with ⟨members, hout⟩ | ⟨message, hout⟩
    · rw [hout] at ht
      rw [List.mem_singleton.1 ht, hout]
      exact .inl ⟨members, rfl⟩
    · rw [hout] at ht
      rw [(searchIn_of_failure last rest hout).2] at h
      rcases List.mem_cons.1 ht with rfl | ht
      · exact .inr ⟨message, hout⟩
      · exact ih _ h t ht

end Tries

/-- A search ends with results, or it is told that no account could run it, and what was asked falls into
a part for each account, in which a request has been sent to it. -/
inductive IsConclusive {ε : Type} (c : Client) (query : Text) (limit : Int)
    (answer : (q : Action) → ε → q.Reply × ε) (world : ε) : Prop
  | results (results : Json) (hrun : ((search c query limit).run answer world).1 = .ok results)
      (hreport : IsReport results)
  | failed (message : Text)
      (hrun : ((search c query limit).run answer world).1 = .error (.fetch message))
      (parts : List (Account × List Action)) (hall : (parts.map (·.1)).Perm c.accounts)
      (hasked : (search c query limit).asked answer world = parts.flatMap (·.2))
      (hsent : ∀ part ∈ parts, ∃ r,
        request part.1 searchPath (searchParameters query limit) = .ok r ∧ .send r ∈ part.2)

/-- What a search needs to be conclusive. -/
structure IsReliable {ε : Type} (c : Client) (query : Text) (limit : Int)
    (answer : (q : Action) → ε → q.Reply × ε) (world : ε) : Prop where
  /-- The attempts can be counted off. -/
  countable : c.maxRetries < countLimit
  /-- Of each account that is tried it can be told how it did. -/
  told : ∀ t ∈ tries c query limit answer world, t.IsTold c query limit answer
  /-- One of them answers, or the request can be written for all. -/
  sendable : (∃ t ∈ tries c query limit answer world, ∃ data,
      t.outcome c query limit answer = .ok data) ∨
    ∀ account ∈ c.accounts, ∃ r,
      request account searchPath (searchParameters query limit) = .ok r

section Searches

variable {ε : Type} {c : Client} {query : Text} {limit : Int}
  {answer : (q : Action) → ε → q.Reply × ε} {world : ε}

theorem search_eq_searchIn :
    search c query limit = searchIn c query limit noAccount (ranked c.accounts) := by
  rw [search]
  cases ranked c.accounts with
  | nil => rfl
  | cons account rest => rfl

theorem IsConclusive.isTryOutcome (h : IsConclusive c query limit answer world) :
    IsTryOutcome ((search c query limit).run answer world).1 := by
  cases h with
  | results results hrun hreport =>
    obtain ⟨issues, total, name, host, color, rfl⟩ := hreport
    exact .inl ⟨_, hrun⟩
  | failed message hrun => exact .inr ⟨message, hrun⟩

/-- Without accounts a search fails, and there is nobody to ask. -/
theorem isConclusive_of_nil (h : c.accounts = []) :
    IsConclusive c query limit answer world := by
  have hranked : ranked c.accounts = [] := by
    rw [h]
    exact List.mergeSort_nil
  have hsearch : search c query limit = .done (.error noAccount) := by
    rw [search, hranked]
  refine .failed "No Jira account configured" (by rw [hsearch]; rfl) [] (by rw [h]; rfl) ?_ ?_
  · rw [hsearch]
    rfl
  · exact fun part hpart => absurd hpart List.not_mem_nil

/-- Where attempts cannot be counted off, a search fails at the first account. -/
theorem IsConclusive.countable (hend : IsConclusive c query limit answer world)
    (hsome : c.accounts ≠ []) : c.maxRetries < countLimit := by
  by_contra hmany
  have hout := hend.isTryOutcome
  rw [search_eq_searchIn] at hout
  cases hranked : ranked c.accounts with
  | nil => exact hsome ((hranked ▸ ranked_perm c.accounts).nil_eq.symm)
  | cons account rest =>
    rw [hranked] at hout
    have hfirst := (⟨account, world⟩ : Try ε).isTryOutcome_of_searchIn noAccount rest hout
    rw [Try.outcome, Try.plan, get, if_neg (by omega)] at hfirst
    exact absurd hfirst (not_isTryOutcome_error (by rintro _ ⟨⟩))

/-- An account answers, or all of them fail and the search does. -/
theorem exists_answer_or_failed (hout : ∀ t ∈ tries c query limit answer world,
      IsTryOutcome (t.outcome c query limit answer)) :
    (∃ t ∈ tries c query limit answer world, ∃ members,
        t.outcome c query limit answer = .ok (.object members) ∧
        ((search c query limit).run answer world).1 = .ok (resultsFrom t.account members)) ∨
      ((tries c query limit answer world).map (·.account) = ranked c.accounts ∧
        (∀ t ∈ tries c query limit answer world, ∃ message,
          t.outcome c query limit answer = .error (.fetch message)) ∧
        ∃ message, ((search c query limit).run answer world).1 = .error (.fetch message)) := by
  have htold := searchIn_isToldBy noAccount hout
  rw [search_eq_searchIn]
  by_cases hany : ∃ t ∈ tries c query limit answer world, ∃ members,
      t.outcome c query limit answer = .ok (.object members)
  · obtain ⟨t, ht, members, hok⟩ := hany
    exact .inl ⟨t, ht, members, hok, htold.answered t ht members hok⟩
  · have hfetch : ∀ t ∈ tries c query limit answer world, ∃ message,
        t.outcome c query limit answer = .error (.fetch message) :=
      fun t ht => (hout t ht).resolve_left fun hok => hany ⟨t, ht, hok⟩
    obtain ⟨hall, hrun⟩ := htold.failed fun t ht => ⟨_, (hfetch t ht).choose_spec⟩
    refine .inr ⟨hall, hfetch, ?_⟩
    rw [hrun]
    cases hlast : (triesOf c query limit answer (ranked c.accounts) world).getLast? with
    | none => exact ⟨_, rfl⟩
    | some t => exact hfetch t (List.mem_of_getLast? hlast)

theorem IsConclusive.isReliable (hend : IsConclusive c query limit answer world)
    (h : 0 ≤ c.maxRetries) (hsome : c.accounts ≠ []) :
    IsReliable c query limit answer world := by
  have hcount := hend.countable hsome
  have hout : ∀ t ∈ tries c query limit answer world,
      IsTryOutcome (t.outcome c query limit answer) :=
    isTryOutcome_of_mem_triesOf noAccount (search_eq_searchIn ▸ hend.isTryOutcome)
  refine ⟨hcount, fun t ht => (Try.isTryOutcome_iff h hcount).1 (hout t ht), ?_⟩
  cases hend with
  | results results hrun _ =>
    rcases exists_answer_or_failed hout with ⟨t, ht, members, hok, -⟩ | ⟨-, -, message, hfailed⟩
    · exact .inl ⟨t, ht, _, hok⟩
    · rw [hrun] at hfailed
      cases hfailed
  | failed message _ parts hall _ hsent =>
    right
    intro account haccount
    obtain ⟨part, hpart, rfl⟩ := List.mem_map.1 (hall.mem_iff.2 haccount)
    obtain ⟨r, hr, -⟩ := hsent part hpart
    exact ⟨r, hr⟩

theorem IsReliable.isConclusive (hrel : IsReliable c query limit answer world)
    (h : 0 ≤ c.maxRetries) : IsConclusive c query limit answer world := by
  have hout : ∀ t ∈ tries c query limit answer world,
      IsTryOutcome (t.outcome c query limit answer) :=
    fun t ht => (Try.isTryOutcome_iff h hrel.countable).2 (hrel.told t ht)
  rcases exists_answer_or_failed hout with
    ⟨t, ht, members, -, hrun⟩ | ⟨hall, hfetch, message, hrun⟩
  · exact .results _ hrun (search_isAnswer _ hrun)
  · have hsendable : ∀ account ∈ c.accounts, ∃ r,
        request account searchPath (searchParameters query limit) = .ok r := by
      apply hrel.sendable.resolve_left
      rintro ⟨t, ht, data, hok⟩
      obtain ⟨_, hfailed⟩ := hfetch t ht
      rw [hok] at hfailed
      cases hfailed
    have hperm : ((tries c query limit answer world).map (·.account)).Perm c.accounts :=
      hall ▸ ranked_perm c.accounts
    refine .failed message hrun
      ((tries c query limit answer world).map fun t => (t.account, t.asked c query limit answer))
      ?_ ?_ fun part hpart => ?_
    · rw [List.map_map]
      exact hperm
    · rw [search_eq_searchIn, (searchIn_isToldBy noAccount hout).asked, List.flatMap_map]
      rfl
    · obtain ⟨t, ht, rfl⟩ := List.mem_map.1 hpart
      obtain ⟨r, hr⟩ := hsendable t.account (hperm.mem_iff.1 (List.mem_map_of_mem ht))
      exact ⟨r, hr, (get_endsByLast hr h hrel.countable t.before).sent⟩

/-- A search ends with results, or is told to have failed after all accounts have been sent a request,
exactly where there are no accounts, or the responses of those that are tried can be read and their
requests be written. -/
theorem search_isConclusive_iff (h : 0 ≤ c.maxRetries) :
    IsConclusive c query limit answer world ↔
      c.accounts = [] ∨ IsReliable c query limit answer world := by
  constructor
  · intro hend
    by_cases hnone : c.accounts = []
    · exact .inl hnone
    · exact .inr (hend.isReliable h hnone)
  · rintro (hnone | hrel)
    · exact isConclusive_of_nil hnone
    · exact hrel.isConclusive h

end Searches

/-- A main and a spare account. -/
def mainAndSpare : List Account :=
  [⟨"Default", "http://a", .none, [], [], [], 1, "#000000"⟩,
    ⟨"Default", "http://b", .none, [], [], [], 2, "#000000"⟩]

/-- A world in which one host refuses every request with a message that is a number, and all others know
of no issue. -/
def refusedByNumber (host : Text) : (q : Action) → Unit → q.Reply × Unit
  | .pause _, _ => ((), ())
  | .send r, _ =>
    (if r.endpoint.host = host then .answered 400 "\x7b\"errorMessages\":[1]\x7d"
      else .answered 200 "\x7b\"issues\":[],\"total\":0\x7d", ())

/-- The spare account is healthy, and not asked. -/
theorem not_isConclusive_of_numeric_message :
    0 ≤ (⟨mainAndSpare, 5, usualBackoff⟩ : Client).maxRetries ∧
      ¬ IsConclusive ⟨mainAndSpare, 5, usualBackoff⟩ "q" 10 (refusedByNumber "a") () := by
  refine ⟨by decide, fun hend => ?_⟩
  have hranked : ranked mainAndSpare = mainAndSpare := by
    simp [ranked, mainAndSpare, List.mergeSort, List.MergeSort.Internal.splitInTwo]
  let main : Try Unit := ⟨⟨"Default", "http://a", .none, [], [], [], 1, "#000000"⟩, ()⟩
  have hmem : main ∈ tries ⟨mainAndSpare, 5, usualBackoff⟩ "q" 10 (refusedByNumber "a") () := by
    rw [tries, hranked, mainAndSpare, triesOf]
    split <;> exact List.mem_cons_self
  have hout : ¬ IsTryOutcome
      (main.outcome ⟨mainAndSpare, 5, usualBackoff⟩ "q" 10 (refusedByNumber "a")) := by
    decide +kernel
  rcases (search_isConclusive_iff (by decide)).1 hend with hnone | hrel
  · cases hnone
  · exact hout ((Try.isTryOutcome_iff (by decide) (by decide)).2 (hrel.told main hmem))

end Jira

end QueryFence
