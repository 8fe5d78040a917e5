import QueryFence.Proofs.Jira.Report
import QueryFence.Proofs.Rounds.Passing
import QueryFence.Proofs.Spec.Fault
import QueryFence.Proofs.Traffic.Provenance

/-!
When a block ends in one of its two states. Whatever the search service sends, only results that the view
has no text for end a cycle in a fault, and they do so whether they were just sent or lie in the cache.
-/

namespace QueryFence

open QueryFence.Cycle QueryFence.Steps
open QueryFence.Traffic (entryOf)

/-- Whether results have a text in the mode and with the columns of a block. -/
def Hub.Fits (hub : Hub) (spec : Spec) (results : Json) : Prop :=
  match spec.mode with
  | .list => results.HasIssues IssueList.Fits
  | .table => Table.Fits hub.settings (if spec.columns.isEmpty then hub.columns else spec.columns)
      results

/-- The results that a block has to show: those that the cache holds, or else those of its search. -/
def MemoryCache.resultsFor? {ε : Type} (cache : MemoryCache) (service : Service ε) (hub : Hub)
    (now : Instant) (world : ε) (spec : Spec) : Option Json :=
  match (cache.get now spec.cacheKey).1 with
  | .ok (some e) => if e.isError then none else some e.data
  | _ => ((service.search spec.query (effectiveLimit hub spec)).run service.answer
      world).1.toOption

namespace MemoryCache

variable {c : MemoryCache}

/-- The time below a table can be told of every sound cache. -/
theorem IsSound.endsWell_timeText (h : c.IsSound) (now : Instant) (key : Text) :
    EndsWell (timeText (ResultCache.get c now key).1) := by
  rcases h.result_get now key with ⟨rest, -, hget⟩ | ⟨e, hm, hget⟩
  · rw [hget]
    exact endsWell_ok _
  · rw [hget]
    obtain ⟨t, ht, he⟩ := h.times key e hm
    have htime : e.toJson.item "time" = .ok (.text t.isoText) := by rw [← he]; rfl
    refine endsWell_bind_iff.2 ⟨_, htime, ?_⟩
    dsimp only
    rw [Iso.read_isoText ht]
    exact endsWell_ok _

end MemoryCache

/-- An answer of the client is results with a total, or a failure. -/
theorem Jira.IsAnswer.isSearchOutcome {outcome : Except SearchFailure Json} (h : IsAnswer outcome) :
    IsSearchOutcome outcome := by
  cases outcome with
  | error failure => trivial
  | ok results =>
    obtain ⟨issues, total, name, host, color, rfl⟩ := h results rfl
    exact ⟨total, rfl⟩

namespace Cycle

variable {hub : Hub} {spec : Spec} {results : Json} {found : Except Fault (Option Json)}

theorem endsWell_textOfResults_iff (hreport : Jira.IsReport results)
    (htime : EndsWell (timeText found)) :
    EndsWell (textOfResults hub spec results found) ↔ hub.Fits spec results := by
  obtain ⟨time, htime⟩ := htime
  rw [textOfResults, Hub.Fits]
  cases spec.mode with
  | list => exact IssueList.endsWell_write_iff
  | table =>
    dsimp only
    rw [← Table.endsWell_writeUpToTime_iff (hreport.endsWell_totalLine hub.settings)]
    cases Table.writeUpToTime hub.settings
      (if spec.columns.isEmpty then hub.columns else spec.columns) results with
    | error fault => exact Iff.rfl
    | ok body =>
      rw [htime]
      exact ⟨fun _ => endsWell_ok body, fun _ => endsWell_ok _⟩

theorem endsWell_shown_iff {σ α : Type} {r : Except Fault α × Scene σ} :
    EndsWell (shown r) ↔ EndsWell r.1 := by
  rcases r with ⟨fault | a, s⟩
  · exact ⟨fun h => absurd h (not_endsWell_error fault), fun h => absurd h (not_endsWell_error fault)⟩
  · exact ⟨fun _ => endsWell_ok a, fun _ => endsWell_ok _⟩

/-- The end of a cycle whose search is answered. -/
theorem endsWell_resume_iff {now : Instant} (hnow : now.IsTold) {p : Pending}
    {outcome : Except SearchFailure Json} (ho : Jira.IsAnswer outcome) {s : Scene MemoryCache}
    (hopen : s.display.closed = false) (hs : s.cache.IsSound) :
    EndsWell ((resume hub now p outcome).run.run s).1 ↔
      ∀ results ∈ outcome.toOption, hub.Fits p.spec results := by
  obtain ⟨after, hadd, hafter⟩ : ∃ after, ResultCache.add s.cache now p.spec.cacheKey
      (recorded outcome).1 (recorded outcome).2 = (.ok (entryOf now outcome).toJson, after) ∧
        after.IsSound := by
    obtain ⟨rest, hrest, hadd⟩ := hs.result_add now p.spec.cacheKey (recorded outcome).1
      (recorded outcome).2
    exact ⟨_, hadd, (hrest.isSound hs).put hnow p.spec.cacheKey rfl⟩
  have htime := hafter.endsWell_timeText now p.spec.cacheKey
  rw [← endsWell_shown_iff, shown_resume ho.isSearchOutcome hopen hadd]
  cases outcome with
  | error failure => exact ⟨fun _ => nofun, fun _ => endsWell_ok _⟩
  | ok results =>
    rw [textOfAnswer, endsWell_textOfResults_iff (ho results rfl) htime]
    constructor
    · rintro h _ ⟨⟩
      exact h
    · intro h
      exact h results rfl

/-- The end of a cycle that shows what the cache holds. -/
theorem endsWell_showStored_iff {now : Instant} {e : Entry}
    (hreport : e.isError = false → Jira.IsReport e.data) {s : Scene MemoryCache}
    (hopen : s.display.closed = false) (hs : s.cache.IsSound) :
    EndsWell ((showStored hub now spec e.toJson).run.run s).1 ↔
      (e.isError = false → hub.Fits spec e.data) := by
  have herror : e.toJson.item "is_error" = .ok (.bool e.isError) := rfl
  have hdata : e.toJson.item "data" = .ok e.data := rfl
  rw [← endsWell_shown_iff, shown_showStored hub now spec e.toJson hopen, textOfRecord, herror, hdata]
  dsimp only
  cases he : e.isError with
  | true => exact ⟨fun _ h => Bool.noConfusion h, fun _ => endsWell_ok _⟩
  | false =>
    rw [show (Json.bool false).isVoid = true from rfl, if_pos rfl,
      endsWell_textOfResults_iff (hreport he) (hs.endsWell_timeText now spec.cacheKey)]
    exact ⟨fun h _ => h, fun h => h rfl⟩

end Cycle

namespace Traffic

/-- Events of a clock that tells the time, whose searches are answered as the client answers them. -/
structure IsOfClient (event : Instant × Event) : Prop where
  time : event.1.IsTold
  answer : ∀ index outcome, event.2 = .answer index outcome → Jira.IsAnswer outcome

variable {hub : Hub} {events : List (Instant × Event)}

theorem IsOfClient.isUsual {event : Instant × Event} (h : IsOfClient event) :
    Event.IsUsual event :=
  ⟨h.time, fun index outcome he => (h.answer index outcome he).isSearchOutcome⟩

/-- Every answer among cycles is one of the events. -/
theorem answers_isAnswer (h : ∀ event ∈ events, IsOfClient event) (ttl : Span) :
    ∀ a ∈ ((quiet (MemoryCache.empty ttl)).run hub events).answers, Jira.IsAnswer a.outcome := by
  refine run_invariant (P := fun t => ∀ a ∈ t.answers, Jira.IsAnswer a.outcome)
    (fun t event he ht => ?_) (fun a ha => absurd ha List.not_mem_nil)
  have hlaunch : ∀ source (r : Except Fault Begun × Scene MemoryCache),
      (t.launch source r).answers = t.answers := by
    rintro source ⟨fault | ⟨outcome | p⟩, s⟩
    · rfl
    · rfl
    · rfl
  rcases hevent : event with ⟨now, kind⟩
  cases kind with
  | render source =>
    rw [step, hlaunch]
    exact ht
  | refresh spec =>
    rw [step, hlaunch]
    exact ht
  | answer index outcome =>
    simp only [step]
    split
    · intro a ha
      rcases List.mem_cons.1 ha with rfl | ha
      · exact (h event he).answer index outcome (by rw [hevent])
      · exact ht a ha
    · exact ht

/-- After any cycles the cache in memory holds answers of the client. -/
theorem holds_reports (h : ∀ event ∈ events, IsOfClient event) (ttl : Span) :
    let c := ((quiet (MemoryCache.empty ttl)).run hub events).cache
    c.IsSound ∧ ∀ key e, (key, e) ∈ c.entries → e.isError = false → Jira.IsReport e.data := by
  have hf : IsFaithful hub (fun _ => True) ((quiet (MemoryCache.empty ttl)).run hub events) :=
    isFaithful_run ttl (fun event he => (h event he).isUsual) fun _ _ _ _ _ _ => trivial
  refine ⟨hf.sound, fun key e hm herror => ?_⟩
  obtain ⟨a, hlast, hrecords⟩ := hf.entries key e hm
  have ha := answers_isAnswer h ttl a (List.mem_of_find?_eq_some hlast)
  cases ho : a.outcome with
  | error failure =>
    rw [Entry.Records, ho, herror] at hrecords
    cases (Prod.mk.inj hrecords).2
  | ok results =>
    rw [Entry.Records, ho] at hrecords
    rw [(Prod.mk.inj hrecords).1]
    exact ha results ho

end Traffic

namespace BlockRun

open Traffic

section Looked

variable {hub : Hub} {source : Text} {spec : Spec} {cache rest : MemoryCache} {now later : Instant}

/-- A block that finds its results or its error in the cache. -/
theorem endsWell_between_of_found (hsound : cache.IsSound)
    (hread : Spec.read hub.settings source = .ok spec) {e : Entry}
    (hget : cache.get now spec.cacheKey = (.ok (some e), cache))
    (hreport : e.isError = false → Jira.IsReport e.data) {ε : Type} (service : Service ε) (world : ε) :
    EndsWell (between service hub now later source cache world).result ↔
      ∀ results ∈ cache.resultsFor? service hub now world spec, hub.Fits spec results := by
  have hfound : ResultCache.get cache now spec.cacheKey = (.ok (some e.toJson), cache) := by
    simp only [ResultCache.get, hget, Option.map_some]
  have hresults : cache.resultsFor? service hub now world spec =
      if e.isError then none else some e.data := by
    rw [MemoryCache.resultsFor?, hget]
  have hstart := start_of_found (s := ⟨Display.blank, cache⟩) hread hfound rfl
  rw [between_of_started hstart]
  refine (endsWell_showStored_iff hreport rfl hsound).trans ?_
  rw [hresults]
  cases e.isError with
  | true => exact ⟨fun _ _ hm => absurd hm (Option.not_mem_none _), fun _ h => Bool.noConfusion h⟩
  | false =>
    constructor
    · rintro h _ ⟨⟩
      exact h rfl
    · exact fun h _ => h e.data rfl

/-- A block that searches. -/
theorem endsWell_between_of_missing (hrest : rest.IsSound)
    (hread : Spec.read hub.settings source = .ok spec)
    (hget : cache.get now spec.cacheKey = (.ok none, rest)) (hlater : later.IsTold)
    {ε : Type} (c : Jira.Client) (answer : (q : Jira.Action) → ε → q.Reply × ε) (world : ε) :
    EndsWell (between (Jira.service c answer) hub now later source cache world).result ↔
      ∀ results ∈ cache.resultsFor? (Jira.service c answer) hub now world spec,
        hub.Fits spec results := by
  have hmissing : ResultCache.get cache now spec.cacheKey = (.ok none, rest) := by
    simp only [ResultCache.get, hget, Option.map_none]
  obtain ⟨outcome, houtcome⟩ : ∃ outcome, outcome =
      (Jira.search c spec.query (effectiveLimit hub spec)).run answer world := ⟨_, rfl⟩
  have hanswer : Jira.IsAnswer outcome.1 := houtcome ▸ Jira.search_isAnswer
  have hresults : cache.resultsFor? (Jira.service c answer) hub now world spec =
      outcome.1.toOption := by
    rw [MemoryCache.resultsFor?, hget, houtcome]
    rfl
  have hstart := start_of_missing (s := ⟨Display.blank, cache⟩) hread hmissing
  rw [between_of_searching hstart houtcome.symm, hresults]
  exact endsWell_resume_iff hlater hanswer rfl hrest

end Looked

end BlockRun

end QueryFence
