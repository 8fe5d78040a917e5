import QueryFence.Tools

/-!
Calls of the tools on their way to the shared hub, event by event. A call that finds no hub loads the custom
fields and makes one; while it waits for the service, other calls may come and be answered. Without others
between them, the events of a call come to what the tool does when it is used by itself.
-/

namespace QueryFence

/-- How far a call of a tool has come on its way to a hub. -/
inductive EntryStage
  /-- It waits for a reply about the custom fields. -/
  | loading (question : Jira.Action)
      (next : question.Reply → Jira.ClientPlan (Option FieldTable))
  /-- It goes on with a hub that was there. -/
  | joined (number : Nat)
  /-- It goes on with the hub that it made with what it found. -/
  | made (found : Option FieldTable) (number : Nat)
  /-- It found something, and no hub could be made with it. -/
  | refused (found : Option FieldTable) (failure : Failure)
  /-- It could not even be told that nothing was found. -/
  | failed (failure : Failure)

namespace EntryStage

/-- The number of the hub it goes on with; hubs are numbered in the order in which they are made. -/
def hub? : EntryStage → Option Nat
  | .joined number | .made _ number => some number
  | .loading _ _ | .refused _ _ | .failed _ => none

def isLoading : EntryStage → Bool
  | .loading _ _ => true
  | .joined _ | .made _ _ | .refused _ _ | .failed _ => false

/-- There was no hub when it came. -/
def CameFirst (stage : EntryStage) : Prop := ∀ number, stage ≠ .joined number

def Made (stage : EntryStage) (number : Nat) : Prop := ∃ found, stage = .made found number

def IsRefused (stage : EntryStage) : Prop := ∃ found failure, stage = .refused found failure

/-- It has ended without a hub. -/
def IsLost (stage : EntryStage) : Prop := stage.IsRefused ∨ ∃ failure, stage = .failed failure

/-- It has loaded the custom fields. -/
def HasLoaded (stage : EntryStage) : Prop :=
  ∃ table, (∃ number, stage = .made (some table) number) ∨ ∃ failure, stage = .refused (some table) failure

end EntryStage

/-- A call of a tool, with the numbers of the calls that were loading when it came. -/
structure EntryCall where
  met : List Nat
  stage : EntryStage

/-- A server with the calls of its tools, and the hubs that they have made. -/
structure Entries where
  server : ToolServer
  calls : List EntryCall
  hubs : List SharedHub

/-- What may happen next. -/
inductive EntryEvent
  | call
  /-- A call gets the reply that it waits for; calls are numbered in the order in which they came. -/
  | reply (index : Nat) (replies : (question : Jira.Action) → question.Reply)
  /-- A tool goes on with its hub, which changes nothing of the server but the folder of the cache. -/
  | work (disk : Disk)

namespace Entries

def fresh (settings : Settings) : Entries := ⟨ToolServer.fresh settings, [], []⟩

/-- The numbers of the calls that are loading. -/
def waiting (t : Entries) : List Nat :=
  (List.range t.calls.length).filter fun i => t.calls[i]?.any (·.stage.isLoading)

/-- What a call comes to whose loading has ended. -/
def finish (t : Entries) : Except SearchFailure (Option FieldTable) → EntryStage × Entries
  | .error failure => (.failed (.ofSearch failure), t)
  | .ok found =>
    match t.server.install (Jira.complete t.server.settings found) with
    | (.error failure, server) => (.refused found failure, { t with server := server })
    | (.ok shared, server) =>
      (.made found t.hubs.length, { t with server := server, hubs := t.hubs ++ [shared] })

/-- What a call comes to that goes on loading. -/
def advance (t : Entries) : Jira.ClientPlan (Option FieldTable) → EntryStage × Entries
  | .ask question next => (.loading question next, t)
  | .done result => t.finish result

/-- The calls after one of them, at a place among them, has come to another stage. -/
def settle (t : Entries) (index : Nat) (met : List Nat) (came : EntryStage × Entries) : Entries :=
  { came.2 with calls := t.calls.set index ⟨met, came.1⟩ }

/-- What an event does. A reply that no call waits for changes nothing. -/
def step (t : Entries) : EntryEvent → Entries
  | .call =>
    match t.server.shared with
    | some _ => { t with calls := t.calls ++ [⟨t.waiting, .joined (t.hubs.length - 1)⟩] }
    | none =>
      let (stage, after) := t.advance (Jira.discover t.server.settings)
      { after with calls := t.calls ++ [⟨t.waiting, stage⟩] }
  | .reply index replies =>
    match t.calls[index]? with
    | some ⟨met, .loading question next⟩ => t.settle index met (t.advance (next (replies question)))
    | _ => t
  | .work disk => { t with server := { t.server with disk := disk } }

def run (t : Entries) (events : List EntryEvent) : Entries := events.foldl step t

theorem run_append (t : Entries) (before behind : List EntryEvent) :
    t.run (before ++ behind) = (t.run before).run behind := List.foldl_append

theorem mem_waiting_iff {t : Entries} {i : Nat} :
    i ∈ t.waiting ↔ ∃ a, t.calls[i]? = some a ∧ a.stage.isLoading = true := by
  rw [waiting, List.mem_filter, List.mem_range, Option.any_eq_true]
  constructor
  · rintro ⟨-, a, ha, hloading⟩
    exact ⟨a, ha, hloading⟩
  · rintro ⟨a, ha, hloading⟩
    exact ⟨(List.getElem?_eq_some_iff.1 ha).1, a, ha, hloading⟩

section Replies

variable {ε : Type} {answer : (q : Jira.Action) → ε → q.Reply × ε} {t : Entries} {index : Nat}
  {met : List Nat}

/-- Replies to one call, and nothing else. -/
def RepliesTo (index : Nat) (events : List EntryEvent) : Prop :=
  ∀ event ∈ events, ∃ replies, event = .reply index replies

theorem settle_settle (t : Entries) (index : Nat) (met : List Nat) (stage : EntryStage)
    (result : Except SearchFailure (Option FieldTable)) :
    ({ t with calls := t.calls.set index ⟨met, stage⟩ } : Entries).settle index met
        (({ t with calls := t.calls.set index ⟨met, stage⟩ } : Entries).finish result) =
      t.settle index met (t.finish result) := by
  cases result with
  | error failure => simp only [settle, finish, List.set_set]
  | ok found =>
    simp only [settle, finish, List.set_set]
    rcases t.server.install (Jira.complete t.server.settings found) with ⟨_ | _, server⟩ <;> rfl

/-- A call that is answered until it has loaded comes to what its plan comes to. -/
theorem exists_repliesTo (answer : (q : Jira.Action) → ε → q.Reply × ε)
    (plan : Jira.ClientPlan (Option FieldTable)) (world : ε) (t : Entries) {index : Nat}
    (hin : index < t.calls.length) (met : List Nat) :
    ∃ events, RepliesTo index events ∧ (t.settle index met (t.advance plan)).run events =
      t.settle index met (t.finish (plan.run answer world).1) := by
  induction plan generalizing world t with
  | done result => exact ⟨[], fun _ h => absurd h List.not_mem_nil, rfl⟩
  | ask question next ih =>
    have hlength : index < (t.calls.set index ⟨met, .loading question next⟩).length := by
      rwa [List.length_set]
    obtain ⟨events, hreplies, hrun⟩ := ih (answer question world).1 (answer question world).2
      { t with calls := t.calls.set index ⟨met, .loading question next⟩ } hlength
    refine ⟨.reply index (fun q => (answer q world).1) :: events, ?_, ?_⟩
    · exact List.forall_mem_cons.2 ⟨⟨_, rfl⟩, hreplies⟩
    · rw [settle_settle] at hrun
      rw [Plan.run_ask, ← hrun, run, List.foldl_cons, ← run]
      congr 1
      have hself : (t.settle index met (t.advance (.ask question next))).calls[index]? =
          some ⟨met, .loading question next⟩ := List.getElem?_set_self hin
      rw [step, hself]
      rfl

/-- A call that waits can be answered until it has loaded. -/
theorem exists_run_of_loading (answer : (q : Jira.Action) → ε → q.Reply × ε) (world : ε)
    {question : Jira.Action} {next : question.Reply → Jira.ClientPlan (Option FieldTable)}
    (h : t.calls[index]? = some ⟨met, .loading question next⟩) :
    ∃ events, t.run events =
      t.settle index met (t.finish ((Plan.ask question next).run answer world).1) := by
  obtain ⟨hin, hself⟩ := List.getElem?_eq_some_iff.1 h
  obtain ⟨events, -, hrun⟩ := exists_repliesTo answer (.ask question next) world t hin met
  have hsame : t.settle index met (t.advance (.ask question next)) = t := by
    rw [settle, advance, ← hself, List.set_getElem_self]
  rw [hsame] at hrun
  exact ⟨events, hrun⟩

/-- A call that comes while no hub is there, as it is settled behind the others. -/
theorem step_call (h : t.server.shared = none) : ∃ before : Entries,
    before.server = t.server ∧ t.calls.length < before.calls.length ∧
      t.step .call = before.settle t.calls.length t.waiting
        (before.advance (Jira.discover before.server.settings)) := by
  -- whatever stage the new call is given, it is settled at its place
  refine ⟨{ t with calls := t.calls ++ [⟨t.waiting, .joined 0⟩] }, rfl, ?_, ?_⟩
  · rw [List.length_append]
    exact Nat.lt_succ_self _
  · rw [step, h]
    cases Jira.discover t.server.settings with
    | ask question next =>
      simp only [settle, advance, List.set_append_right _ _ (Nat.le_refl _), Nat.sub_self,
        List.set_cons_zero]
    | done result =>
      simp only [settle, advance, List.set_append_right _ _ (Nat.le_refl _), Nat.sub_self,
        List.set_cons_zero]
      cases result with
      | error failure => rfl
      | ok found =>
        simp only [finish]
        rcases t.server.install (Jira.complete t.server.settings found) with ⟨_ | _, server⟩ <;> rfl

/-- A call that is lost where entering fails, and has else the number of the hub that is entered. -/
def EntersAs (t : Entries) (index : Nat) (entered : Except Failure SharedHub) : Prop :=
  ∃ c, t.calls[index]? = some c ∧
    match entered with
    | .ok shared => ∃ number, c.stage.hub? = some number ∧ t.hubs[number]? = some shared
    | .error _ => c.stage.IsLost

/-- A call that no other event comes between enters as the tools do. -/
theorem exists_run_enter (h : t.server.shared = t.hubs.getLast?)
    (answer : (q : Jira.Action) → ε → q.Reply × ε) (world : ε) : ∃ events, RepliesTo t.calls.length events ∧
      (t.run (.call :: events)).server = (t.server.enter answer world).2.1 ∧
      (t.run (.call :: events)).EntersAs t.calls.length (t.server.enter answer world).1 := by
  cases hshared : t.server.shared with
  | some shared =>
    have hlast : t.hubs[t.hubs.length - 1]? = some shared := by
      rw [← List.getLast?_eq_getElem?, ← h, hshared]
    refine ⟨[], fun _ hin => absurd hin List.not_mem_nil, ?_⟩
    rw [run, List.foldl_cons, List.foldl_nil, step, ToolServer.enter, hshared]
    exact ⟨rfl, _, List.getElem?_concat_length, _, rfl, hlast⟩
  | none =>
    obtain ⟨before, hserver, hin, hstep⟩ := step_call hshared
    obtain ⟨events, hreplies, hrun⟩ := exists_repliesTo answer
      (Jira.discover before.server.settings) world before hin t.waiting
    have hall : t.run (.call :: events) = before.settle t.calls.length t.waiting
        (before.finish ((Jira.discover before.server.settings).run answer world).1) := by
      rw [run, List.foldl_cons, hstep]
      exact hrun
    refine ⟨events, hreplies, ?_⟩
    rw [hall, ToolServer.enter, hshared, ← hserver]
    dsimp only
    have hself : ∀ came, (before.settle t.calls.length t.waiting came).calls[t.calls.length]? =
        some ⟨t.waiting, came.1⟩ := fun came => List.getElem?_set_self hin
    rcases (Jira.discover before.server.settings).run answer world with ⟨failure | found, world'⟩
    · exact ⟨rfl, _, hself _, .inr ⟨_, rfl⟩⟩
    · dsimp only
      simp only [finish]
      rcases before.server.install (Jira.complete before.server.settings found) with
        ⟨failure | shared, server⟩
      · exact ⟨rfl, _, hself _, .inl ⟨_, _, rfl⟩⟩
      · exact ⟨rfl, _, hself _, _, rfl, List.getElem?_concat_length⟩

/-- Behind its entry, a tool changes nothing of a server but the folder of the cache. -/
theorem exists_disk_of_call (answer : (q : Jira.Action) → ε → q.Reply × ε) (server : ToolServer)
    (now : Instant) (tool : Tool) (argument : Text) (world : ε) :
    ∃ disk, (server.call answer now tool argument world).2.1 =
      { (server.enter answer world).2.1 with disk := disk } := by
  rw [ToolServer.call]
  rcases server.enter answer world with ⟨failure | shared, entered, world'⟩
  · exact ⟨entered.disk, rfl⟩
  · cases tool with
    | renderBlock | refreshBlock | renderDocument => exact ⟨_, rfl⟩
    | formatBlock => exact ⟨entered.disk, rfl⟩

/-- A use of a tool that nothing comes between is a run: the call, its replies, and the work on the
cache. -/
theorem exists_run_call (h : t.server.shared = t.hubs.getLast?)
    (answer : (q : Jira.Action) → ε → q.Reply × ε) (now : Instant) (tool : Tool) (argument : Text)
    (world : ε) :
    ∃ events disk, RepliesTo t.calls.length events ∧
      (t.run (.call :: events ++ [.work disk])).server =
        (t.server.call answer now tool argument world).2.1 ∧
      (t.run (.call :: events ++ [.work disk])).EntersAs t.calls.length
        (t.server.enter answer world).1 := by
  obtain ⟨events, hreplies, hserver, henters⟩ := exists_run_enter h answer world
  obtain ⟨disk, hdisk⟩ := exists_disk_of_call answer t.server now tool argument world
  refine ⟨events, disk, hreplies, ?_, ?_⟩
  · rw [run_append, hdisk, ← hserver]
    rfl
  · rw [run_append]
    exact henters

end Replies

end Entries

end QueryFence
