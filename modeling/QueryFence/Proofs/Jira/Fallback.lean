import QueryFence.Jira.Client
import QueryFence.Proofs.Files.Custody
import QueryFence.Proofs.Jira.Endpoint

/-!
The accounts of a search, tried one after the other: by ascending priority, in the order they are
listed in where priorities are equal, and up to the first that answers. What is asked while an account
is tried goes to the service of that account and carries its authorization.
-/

namespace QueryFence

namespace Plan

variable {Ask : Type} {Reply : Ask → Type} {α β σ : Type} {answer : (q : Ask) → σ → Reply q × σ}

/-- What a plan asks in a run. -/
def asked (answer : (q : Ask) → σ → Reply q × σ) : Plan Ask Reply α → σ → List Ask
  | .done _, _ => []
  | .ask q next, s => q :: (next (answer q s).1).asked answer (answer q s).2

theorem asked_andThen (p : Plan Ask Reply α) (f : α → Plan Ask Reply β) (s : σ) :
    (p.andThen f).asked answer s =
      p.asked answer s ++ (f (p.run answer s).1).asked answer (p.run answer s).2 := by
  induction p generalizing s with
  | done a => rfl
  | ask q next ih => exact congrArg (q :: ·) (ih _ _)

theorem Asks.of_mem_asked {P : Ask → Prop} {p : Plan Ask Reply α} (h : p.Asks P) (s : σ) :
    ∀ q ∈ p.asked answer s, P q := by
  induction p generalizing s with
  | done a => exact fun q hq => absurd hq List.not_mem_nil
  | ask question next ih =>
    intro q hq
    rcases List.mem_cons.1 hq with rfl | hq
    · exact h.1
    · exact ih _ (h.2 _) _ q hq

end Plan

namespace Jira

/-- The URL of a service: its scheme is one of the web, and it names no user. -/
def IsServiceUrl (url : Text) : Prop :=
  ∃ own, Endpoint.read url = .ok own ∧ (own.scheme = "http" ∨ own.scheme = "https") ∧
    own.userInfo = []

/-- The authorization that an account has of its own, whatever its address holds. -/
def ownAuthorization (account : Account) : Option Text :=
  match account.authType with
  | .basic => some (basicHeader account.username account.password)
  | .bearer => some ("Bearer " ++ account.bearerToken)
  | .none => none

/-- A request to the service of an account, in the name of that account. -/
structure Request.IsOf (r : Request) (account : Account) : Prop where
  origin : ∃ own, Endpoint.read account.host = .ok own ∧ r.endpoint.origin = own.origin
  authorization : r.authorization = ownAuthorization account

section Requests

variable {account : Account} {path : Text} {parameters : List (Text × Text)} {r : Request}

theorem authorization_of_userInfo {endpoint : Endpoint} (h : endpoint.userInfo = []) :
    authorization account endpoint = ownAuthorization account := by
  have hu : endpoint.user = none := by
    rw [Endpoint.user, h]
    rfl
  rw [authorization, ownAuthorization, hu]
  cases account.authType with
  | basic => rfl
  | bearer => rfl
  | none => rfl

/-- Every request of an account is one of its own. -/
theorem isOf_of_request (hh : IsServiceUrl account.host) (hp : path.head? = some '/')
    (h : request account path parameters = .ok r) : r.IsOf account := by
  obtain ⟨own, hown, hscheme, huser⟩ := hh
  have hs : own.scheme ≠ [] := by
    rcases hscheme with he | he
    · rw [he]
      decide
    · rw [he]
      decide
  rw [request] at h
  obtain ⟨plain, hplain, h⟩ := Steps.bind_eq_ok_iff.1 h
  split at h
  · cases h
  obtain ⟨endpoint, hendpoint, h⟩ := Steps.bind_eq_ok_iff.1 h
  obtain ⟨shown, -, h⟩ := Steps.bind_eq_ok_iff.1 h
  cases h
  have hread := Steps.mapError_eq_ok_iff.1 hplain
  obtain ⟨scheme, authority, _, _, _, _, _, _, hne, hbuild, hbuild'⟩ :=
    Endpoint.read_path hown hs hp hread
  obtain ⟨hscheme', huser', hhost', hport'⟩ := Endpoint.build_origin hne hbuild hbuild'
  have horigin : plain.origin = own.origin := by
    rw [Endpoint.origin, Endpoint.origin, hscheme', hhost', hport']
  suffices hsame : endpoint.origin = plain.origin ∧ endpoint.userInfo = [] from
    ⟨⟨own, hown, hsame.1.trans horigin⟩, authorization_of_userInfo hsame.2⟩
  cases parameters with
  | nil =>
    cases hendpoint
    exact ⟨rfl, huser'.trans huser⟩
  | cons parameter parameters =>
    have hquery : plain.withQuery (Form.encode (parameter :: parameters)) = .ok endpoint :=
      Steps.mapError_eq_ok_iff.1 hendpoint
    obtain ⟨hlower, -, hhost, -⟩ := Endpoint.build_eq_ok hne hbuild'
    refine Endpoint.withQuery_origin (hscheme' ▸ hs) ?_ (huser'.trans huser) hhost ?_ hquery
    · rw [hlower, Text.lowerAscii_lowerAscii]
    · exact fun hat => Text.not_mem_splitLast_snd '@' authority
        (Endpoint.splitPort_fst_subset _ hat)

theorem attempts_asks (c : Client) (left n : Nat) :
    (attempts c account path parameters left n).Asks fun q =>
      ∀ r, q = .send r → request account path parameters = .ok r := by
  induction left generalizing n with
  | zero => trivial
  | succ left ih =>
    refine ⟨nofun, fun _ => ?_⟩
    cases hr : request account path parameters with
    | error e =>
      cases e with
      | invalidUrl message => trivial
      | unwritable message => trivial
    | ok r =>
      refine ⟨fun r' h => ?_, fun response => ?_⟩
      · cases h
        rfl
      · dsimp only
        split
        · rw [← hr]
          exact ih (n + 1)
        · trivial

theorem get_asks (c : Client) : (get c account path parameters).Asks fun q =>
    ∀ r, q = .send r → request account path parameters = .ok r := by
  rw [get]
  split
  · exact attempts_asks c _ _
  · trivial

end Requests

section Order

variable (accounts : List Account)

theorem ranked_perm : (ranked accounts).Perm accounts := List.mergeSort_perm _ _

theorem ranked_pairwise : (ranked accounts).Pairwise fun a b => a.priority ≤ b.priority := by
  have hsorted : (ranked accounts).Pairwise fun a b => decide (a.priority ≤ b.priority) = true := by
    refine List.pairwise_mergeSort (fun a b c hab hbc => ?_) (fun a b => ?_) accounts
    · exact decide_eq_true (Int.le_trans (of_decide_eq_true hab) (of_decide_eq_true hbc))
    · rw [Bool.or_eq_true, decide_eq_true_eq, decide_eq_true_eq]
      exact Int.le_total _ _
  exact hsorted.imp of_decide_eq_true

/-- Accounts of equal priority stay in the order they are listed in. -/
theorem ranked_filter (p : Int) : ((ranked accounts).filter fun a => a.priority = p) =
    accounts.filter fun a => a.priority = p := by
  have hsub : (accounts.filter fun a => a.priority = p).Sublist (ranked accounts) := by
    refine List.sublist_mergeSort (fun a b c hab hbc => ?_) (fun a b => ?_) ?_
      List.filter_sublist
    · exact decide_eq_true (Int.le_trans (of_decide_eq_true hab) (of_decide_eq_true hbc))
    · rw [Bool.or_eq_true, decide_eq_true_eq, decide_eq_true_eq]
      exact Int.le_total _ _
    · refine List.Pairwise.imp_of_mem (R := fun _ _ => True) (fun ha hb _ => ?_)
        (List.pairwise_of_forall fun _ _ => trivial)
      have hpa := of_decide_eq_true (List.mem_filter.1 ha).2
      have hpb := of_decide_eq_true (List.mem_filter.1 hb).2
      exact decide_eq_true (Int.le_of_eq (hpa.trans hpb.symm))
  have hkept := hsub.filter fun a => decide (a.priority = p)
  simp only [List.filter_filter, Bool.and_self] at hkept
  exact (hkept.eq_of_length ((ranked_perm accounts).filter _).length_eq.symm).symm

end Order

/-- A try of an account, and the state of the world before it. -/
structure Try (ε : Type) where
  account : Account
  before : ε

section Tries

variable {ε : Type} (c : Client) (query : Text) (limit : Int)
  (answer : (q : Action) → ε → q.Reply × ε)

def Try.plan (t : Try ε) : ClientPlan Json :=
  get c t.account searchPath (searchParameters query limit)

/-- What is asked of the world meanwhile. -/
def Try.asked (t : Try ε) : List Action := (t.plan c query limit).asked answer t.before

/-- The answer of the account, or why there is none. -/
def Try.outcome (t : Try ε) : Except SearchFailure Json :=
  ((t.plan c query limit).run answer t.before).1

def Try.after (t : Try ε) : ε := ((t.plan c query limit).run answer t.before).2

/-- The tries of accounts one after the other, up to the first that has an answer. -/
def triesOf : List Account → ε → List (Try ε)
  | [], _ => []
  | account :: rest, world =>
    let t : Try ε := ⟨account, world⟩
    match t.outcome c query limit answer with
    | .ok _ => [t]
    | .error _ => t :: triesOf rest (t.after c query limit answer)

/-- The tries of a search. -/
def tries (world : ε) : List (Try ε) := triesOf c query limit answer (ranked c.accounts) world

/-- An account answers with an object, or could not be reached. -/
def IsTryOutcome (outcome : Except SearchFailure Json) : Prop :=
  (∃ members, outcome = .ok (.object members)) ∨ ∃ message, outcome = .error (.fetch message)

instance (outcome : Except SearchFailure Json) : Decidable (IsTryOutcome outcome) :=
  match outcome with
  | .ok (.object members) => isTrue (.inl ⟨members, rfl⟩)
  | .error (.fetch message) => isTrue (.inr ⟨message, rfl⟩)
  | .ok .null | .ok (.bool _) | .ok (.int _) | .ok (.float _) | .ok (.text _) | .ok (.list _)
  | .error (.invalidUrl _) | .error (.cookieConflict _) | .error (.fault _) | .error (.other _) =>
    isFalse (by rintro (⟨_, h⟩ | ⟨_, h⟩) <;> cases h)

/-- The results of an answer: its issues and its total, and the account that it came from. -/
def resultsFrom (account : Account) (members : List (Text × Json)) : Json :=
  .object [("issues", (members.lookup ("issues" : Text)).getD (.list [])),
    ("total", (members.lookup ("total" : Text)).getD (.int 0)),
    ("account", .object [("alias", .text account.name), ("host", .text account.host),
      ("color", .text account.color)])]

end Tries

section Runs

variable {ε : Type} {c : Client} {query : Text} {limit : Int}
  {answer : (q : Action) → ε → q.Reply × ε} {accounts : List Account} {world : ε}
  {last : SearchFailure}

theorem triesOf_map_prefix :
    ((triesOf c query limit answer accounts world).map (·.account)) <+: accounts := by
  induction accounts generalizing world with
  | nil => exact List.prefix_refl _
  | cons account rest ih =>
    rw [triesOf]
    split
    · exact ⟨rest, rfl⟩
    · exact List.cons_prefix_cons.2 ⟨rfl, ih⟩

/-- All tries but the last have failed. -/
theorem triesOf_dropLast : ∀ t ∈ (triesOf c query limit answer accounts world).dropLast,
    ∃ failure, t.outcome c query limit answer = .error failure := by
  induction accounts generalizing world with
  | nil => exact fun t ht => absurd ht List.not_mem_nil
  | cons account rest ih =>
    intro t ht
    rw [triesOf] at ht
    split at ht
    · exact absurd ht List.not_mem_nil
    · next failure hfailed =>
      rcases hmore : triesOf c query limit answer rest
        ((⟨account, world⟩ : Try ε).after c query limit answer) with _ | ⟨next, more⟩
      · rw [hmore] at ht
        exact absurd ht List.not_mem_nil
      · rw [hmore, List.dropLast_cons_cons] at ht
        rcases List.mem_cons.1 ht with rfl | ht
        · exact ⟨failure, hfailed⟩
        · exact ih t (hmore ▸ ht)

/-- A try that has an answer ends the search with it. -/
theorem searchIn_of_answer (last : SearchFailure) (accounts : List Account) {t : Try ε}
    {members : List (Text × Json)} (h : t.outcome c query limit answer = .ok (.object members)) :
    (searchIn c query limit last (t.account :: accounts)).asked answer t.before =
        t.asked c query limit answer ∧
      ((searchIn c query limit last (t.account :: accounts)).run answer t.before).1 =
        .ok (resultsFrom t.account members) := by
  have hrun : ((get c t.account searchPath (searchParameters query limit)).run answer
      t.before).1 = .ok (.object members) := h
  rw [searchIn, Plan.asked_andThen, Plan.run_andThen, hrun]
  exact ⟨List.append_nil _, rfl⟩

/-- A try that fails leaves the search to the accounts behind it. -/
theorem searchIn_of_failure (last : SearchFailure) (accounts : List Account) {t : Try ε}
    {message : Text} (h : t.outcome c query limit answer = .error (.fetch message)) :
    (searchIn c query limit last (t.account :: accounts)).asked answer t.before =
        t.asked c query limit answer ++
          (searchIn c query limit (.fetch message) accounts).asked answer
            (t.after c query limit answer) ∧
      (searchIn c query limit last (t.account :: accounts)).run answer t.before =
        (searchIn c query limit (.fetch message) accounts).run answer
          (t.after c query limit answer) := by
  have hrun : ((get c t.account searchPath (searchParameters query limit)).run answer
      t.before).1 = .error (.fetch message) := h
  rw [searchIn, Plan.asked_andThen, Plan.run_andThen, hrun]
  exact ⟨rfl, rfl⟩

/-- What a search asks and how it ends, told by its tries. -/
structure IsToldBy (c : Client) (query : Text) (limit : Int)
    (answer : (q : Action) → ε → q.Reply × ε) (plan : ClientPlan Json) (world : ε)
    (accounts : List Account) (last : SearchFailure) (made : List (Try ε)) : Prop where
  asked : plan.asked answer world = made.flatMap (·.asked c query limit answer)
  answered : ∀ t ∈ made, ∀ members, t.outcome c query limit answer = .ok (.object members) →
    (plan.run answer world).1 = .ok (resultsFrom t.account members)
  failed : (∀ t ∈ made, ∃ failure, t.outcome c query limit answer = .error failure) →
    made.map (·.account) = accounts ∧ (plan.run answer world).1 =
      (made.getLast?.map (·.outcome c query limit answer)).getD (.error last)

theorem searchIn_isToldBy (last : SearchFailure)
    (hout : ∀ t ∈ triesOf c query limit answer accounts world,
      IsTryOutcome (t.outcome c query limit answer)) :
    IsToldBy c query limit answer (searchIn c query limit last accounts) world accounts last
      (triesOf c query limit answer accounts world) := by
  induction accounts generalizing world last with
  | nil => exact ⟨rfl, fun t ht => absurd ht List.not_mem_nil, fun _ => ⟨rfl, rfl⟩⟩
  | cons account rest ih =>
    rcases hout ⟨account, world⟩ (by rw [triesOf]; split <;> exact List.mem_cons_self) with
      ⟨members, h⟩ | ⟨message, h⟩
    · obtain ⟨hasked, hrun⟩ := searchIn_of_answer last rest h
      rw [triesOf, h]
      refine ⟨by rw [hasked]; simp, fun t ht members' h' => ?_, fun hfailed => ?_⟩
      · rw [List.mem_singleton.1 ht] at h' ⊢
        rw [h] at h'
        cases h'
        exact hrun
      · obtain ⟨failure, hfailure⟩ := hfailed _ List.mem_cons_self
        rw [h] at hfailure
        cases hfailure
    · obtain ⟨hasked, hrun⟩ := searchIn_of_failure last rest h
      rw [triesOf, h] at hout ⊢
      have hrest := @ih _ (.fetch message) fun t ht => hout t (List.mem_cons_of_mem _ ht)
      refine ⟨?_, fun t ht members' h' => ?_, fun hfailed => ?_⟩
      · rw [hasked, hrest.asked, List.flatMap_cons]
      · rcases List.mem_cons.1 ht with rfl | ht
        · rw [h] at h'
          cases h'
        · rw [hrun]
          exact hrest.answered t ht members' h'
      · obtain ⟨haccounts, hresult⟩ :=
          hrest.failed fun t ht => hfailed t (List.mem_cons_of_mem _ ht)
        refine ⟨congrArg (account :: ·) haccounts, ?_⟩
        rw [hrun, hresult, List.getLast?_cons]
        cases (triesOf c query limit answer rest
            ((⟨account, world⟩ : Try ε).after c query limit answer)).getLast? with
        | none => exact h.symm
        | some t => rfl

end Runs

/-- A search over the accounts of a client: who is tried and in which order, what is asked meanwhile, and
how it ends. -/
structure IsFallback {ε : Type} (c : Client) (query : Text) (limit : Int)
    (answer : (q : Action) → ε → q.Reply × ε) (world : ε) (made : List (Try ε)) : Prop where
  /-- The accounts are ranked by their priorities, -/
  ascending : (ranked c.accounts).Pairwise fun a b => a.priority ≤ b.priority
  /-- and those of equal priority as they are listed. -/
  stable : ∀ p : Int, ((ranked c.accounts).filter fun a => a.priority = p) =
    c.accounts.filter fun a => a.priority = p
  /-- They are tried in this order, -/
  inTurn : made.map (·.account) <+: ranked c.accounts
  /-- none of them behind one that has an answer, -/
  upToFirst : ∀ t ∈ made.dropLast, ∃ message, t.outcome c query limit answer =
    .error (.fetch message)
  /-- and nothing else is asked. -/
  asked : (search c query limit).asked answer world =
    made.flatMap (·.asked c query limit answer)
  /-- An answer gives the results, under the name of its account. -/
  answered : ∀ t ∈ made, ∀ members, t.outcome c query limit answer = .ok (.object members) →
    ((search c query limit).run answer world).1 = .ok (resultsFrom t.account members)
  /-- Without an answer all accounts are tried, and the failure of the last one is reported. -/
  failed : (∀ t ∈ made, ∃ failure, t.outcome c query limit answer = .error failure) →
    made.map (·.account) = ranked c.accounts ∧ ((search c query limit).run answer world).1 =
      (made.getLast?.map (·.outcome c query limit answer)).getD
        (.error (.fetch "No Jira account configured"))
  /-- Without an account nothing is asked. -/
  unasked : c.accounts = [] → (search c query limit).asked answer world = [] ∧
    ((search c query limit).run answer world).1 = .error (.fetch "No Jira account configured")
  /-- Every request belongs to the account that is tried. -/
  own : ∀ t ∈ made, ∀ r, .send r ∈ t.asked c query limit answer → r.IsOf t.account

/-- Two accounts, the one that is listed first to be tried last. -/
def spareAndMain : List Account :=
  [⟨"spare", "https://spare.example/jira/", .bearer, [], [], "token", 2, "#cccccc"⟩,
    ⟨"main", "HTTP://Main.Example:8080", .basic, "user", "word", [], 1, "#000000"⟩]

/-- A world in which one host cannot be reached and all others know of no issue. -/
def unreached (host : Text) : (q : Action) → Unit → q.Reply × Unit
  | .pause _, _ => ((), ())
  | .send r, _ => (if r.endpoint.host = host then .timedOut else .answered 200 "\x7b\x7d", ())

end Jira

end QueryFence
