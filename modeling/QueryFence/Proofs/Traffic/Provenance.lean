import QueryFence.Proofs.Cache.Memory
import QueryFence.Proofs.Settings.Grammar
import QueryFence.Proofs.Traffic.Basic
import Mathlib.Data.List.Find

/-!
Where outcomes come from: on a cache in memory, whatever is stored or shown for a block is the outcome
of a search for its own query and limit, and what is stored is the outcome of the last of them.
-/

namespace QueryFence

open QueryFence.Cycle

/-- No two of these blocks share a key unless they share query and limit. -/
def Spec.HaveOwnKeys (known : Spec → Prop) : Prop :=
  ∀ a b, known a → known b → a.cacheKey = b.cacheKey → a.query = b.query ∧ a.limit = b.limit

theorem Spec.cacheKey_congr {a b : Spec} (hq : a.query = b.query)
    (hl : a.limit = b.limit) : a.cacheKey = b.cacheKey := by
  rw [Spec.cacheKey, Spec.cacheKey, Spec.keyText, Spec.keyText, hq, hl]

/-- The entry of the outcome of a search. -/
def Entry.Records (e : Entry) (outcome : Except SearchFailure Json) : Prop :=
  (e.data, e.isError) = recorded outcome

/-- The answer is to a search for the query and the limit of a block. -/
structure Answer.IsFor (hub : Hub) (spec : Spec) (a : Answer) : Prop where
  query : a.pending.spec.query = spec.query
  limit : a.pending.spec.limit = spec.limit
  /-- The limit that the search service was asked with. -/
  asked : a.pending.limit = effectiveLimit hub spec

namespace Traffic

variable {σ : Type}

/-- The last answer to a search whose outcome is stored under a key. -/
def lastUnder? (answers : List Answer) (key : Text) : Option Answer :=
  answers.find? fun a => a.pending.spec.cacheKey = key

/-- The last answer to a search for a query and a limit. -/
def lastFor? (answers : List Answer) (spec : Spec) : Option Answer :=
  answers.find? fun a => a.pending.spec.query = spec.query ∧ a.pending.spec.limit = spec.limit

/-- What is known of a search from the time it is asked for. -/
structure IsAsked (hub : Hub) (known : Spec → Prop) (calls : List (Text × Int)) (p : Pending) :
    Prop where
  known : known p.spec
  limit : p.limit = effectiveLimit hub p.spec
  call : (p.spec.query, p.limit) ∈ calls

/-- What is shown for a block comes from an answer under its key. -/
def ShowsAnswers (hub : Hub) (answers : List Answer) (source : Text) (d : Display) : Prop :=
  ∀ spec, Spec.read hub.settings source = .ok spec → ∀ shown ∈ d.history,
    shown = (.loading, loadingText) ∨
      ∃ a ∈ answers, a.pending.spec.cacheKey = spec.cacheKey ∧ Shows hub spec shown a.outcome

/-- What every cycle keeps to. -/
structure ErrandIsFaithful (hub : Hub) (known : Spec → Prop) (calls : List (Text × Int))
    (answers : List Answer) (e : Errand) : Prop where
  reads : ∀ spec, Spec.read hub.settings e.source = .ok spec → known spec
  shown : ShowsAnswers hub answers e.source e.display
  searching : ∀ p, e.stage = .searching p → IsAsked hub known calls p ∧
    Spec.read hub.settings e.source = .ok p.spec ∧ e.display.closed = false

/-- The invariant of cycles on a cache in memory. -/
structure IsFaithful (hub : Hub) (known : Spec → Prop) (t : Traffic MemoryCache) : Prop where
  sound : t.cache.IsSound
  entries : ∀ key e, (key, e) ∈ t.cache.entries →
    ∃ a, lastUnder? t.answers key = some a ∧ e.Records a.outcome
  answers : ∀ a ∈ t.answers, IsAsked hub known t.calls a.pending
  errands : ∀ e ∈ t.errands, ErrandIsFaithful hub known t.calls t.answers e

section Monotone

variable {hub : Hub} {known : Spec → Prop} {calls calls' : List (Text × Int)}
  {answers answers' : List Answer}

theorem IsAsked.mono {p : Pending} (h : IsAsked hub known calls p) (hc : calls ⊆ calls') :
    IsAsked hub known calls' p := ⟨h.known, h.limit, hc h.call⟩

theorem ShowsAnswers.mono {source : Text} {d : Display} (h : ShowsAnswers hub answers source d)
    (ha : answers ⊆ answers') : ShowsAnswers hub answers' source d := by
  intro spec hread shown hs
  rcases h spec hread shown hs with hload | ⟨a, hmem, hkey, hshows⟩
  · exact .inl hload
  · exact .inr ⟨a, ha hmem, hkey, hshows⟩

theorem ErrandIsFaithful.mono {e : Errand} (h : ErrandIsFaithful hub known calls answers e)
    (hc : calls ⊆ calls') (ha : answers ⊆ answers') :
    ErrandIsFaithful hub known calls' answers' e :=
  ⟨h.reads, h.shown.mono ha, fun p hp => ⟨(h.searching p hp).1.mono hc, (h.searching p hp).2⟩⟩

end Monotone

section Step

variable {hub : Hub} {known : Spec → Prop} {now : Instant} {t : Traffic MemoryCache}

theorem IsLookedUp.isRest {key : Text} {c after : MemoryCache} (h : IsLookedUp now key c after)
    (hc : c.IsSound) : after.IsRest c := by
  rcases h with rfl | rfl
  · exact .refl _
  · exact hc.result_get_snd now key

/-- What is left of the cache stays faithful while nothing is answered. -/
theorem IsFaithful.rest_entries (h : IsFaithful hub known t) {c : MemoryCache}
    (hc : c.IsRest t.cache) (key : Text) (e : Entry) (he : (key, e) ∈ c.entries) :
    ∃ a, lastUnder? t.answers key = some a ∧ e.Records a.outcome :=
  h.entries key e (hc.entries.subset he)

/-- One more cycle that came to its end on what is left of the cache. -/
theorem IsFaithful.finish (h : IsFaithful hub known t) {c : MemoryCache} (hc : c.IsRest t.cache)
    {source : Text} (hknown : ∀ spec, Spec.read hub.settings source = .ok spec → known spec)
    {d : Display} (hd : ShowsAnswers hub t.answers source d) (result : Except Fault Outcome) :
    IsFaithful hub known
      { t with cache := c, errands := t.errands ++ [⟨source, d, .ended result⟩] } where
  sound := hc.isSound h.sound
  entries := h.rest_entries hc
  answers := h.answers
  errands e he := by
    rcases List.mem_append.1 he with he | he
    · exact h.errands e he
    · rw [List.mem_singleton.1 he]
      exact ⟨hknown, hd, fun p hp => by cases hp⟩

/-- One more cycle that waits for its search on what is left of the cache. -/
theorem IsFaithful.search (h : IsFaithful hub known t) {c : MemoryCache} (hc : c.IsRest t.cache)
    {source : Text} (hknown : ∀ spec, Spec.read hub.settings source = .ok spec → known spec)
    {spec : Spec} (hread : Spec.read hub.settings source = .ok spec) :
    IsFaithful hub known (t.launch source (.ok (.searching ⟨spec, effectiveLimit hub spec⟩),
      ⟨Display.blank.put .loading loadingText, c⟩)) where
  sound := hc.isSound h.sound
  entries := h.rest_entries hc
  answers a ha := (h.answers a ha).mono (List.subset_append_left _ _)
  errands e he := by
    rcases List.mem_append.1 he with he | he
    · exact (h.errands e he).mono (List.subset_append_left _ _) (List.Subset.refl _)
    · rw [List.mem_singleton.1 he]
      refine ⟨hknown, fun _ _ shown hs => .inl (List.mem_singleton.1 hs), fun p hp => ?_⟩
      cases hp
      exact ⟨⟨hknown _ hread, rfl, List.mem_append_right _ (List.mem_singleton.2 rfl)⟩, hread, rfl⟩

theorem showsAnswers_of_not_read {answers : List Answer} {source : Text}
    (h : ∀ spec, Spec.read hub.settings source ≠ .ok spec) (d : Display) :
    ShowsAnswers hub answers source d := fun spec hread => absurd hread (h spec)

theorem showsAnswers_blank (answers : List Answer) (source : Text) :
    ShowsAnswers hub answers source Display.blank :=
  fun _ _ _ hs => absurd hs List.not_mem_nil

/-- A cycle that begins on what is left of the cache. -/
theorem IsFaithful.launch (h : IsFaithful hub known t) {c : MemoryCache} (hc : c.IsRest t.cache)
    {source : Text} (hknown : ∀ spec, Spec.read hub.settings source = .ok spec → known spec) :
    IsFaithful hub known
      (t.launch source ((start hub now source).run.run ⟨Display.blank, c⟩)) := by
  have hsound := hc.isSound h.sound
  obtain ⟨r, hr⟩ : ∃ r, r = (start hub now source).run.run ⟨Display.blank, c⟩ := ⟨_, rfl⟩
  have hb : Begins hub now source ⟨Display.blank, c⟩ r := hr ▸ start_begins source _
  rw [← hr]
  cases hb with
  | unread hread =>
    exact h.finish hc hknown (showsAnswers_blank _ _) _
  | rejected hread =>
    have hno : ∀ spec, Spec.read hub.settings source ≠ .ok spec := by
      intro spec hs
      cases hread.symm.trans hs
    exact h.finish hc hknown (showsAnswers_of_not_read hno _) _
  | broken hread hget =>
    exact h.finish ((hsound.rest_of_get hget).trans hc) hknown (showsAnswers_blank _ _) _
  | missed hread hget =>
    exact h.search ((hsound.rest_of_get hget).trans hc) hknown hread
  | @found spec record cache r s' hread hget hshow =>
    rcases hsound.result_get now spec.cacheKey with ⟨rest, -, hnone⟩ | ⟨e, he, hsome⟩
    · cases hnone.symm.trans hget
    · cases hsome.symm.trans hget
      obtain ⟨a, hlast, hrecords⟩ := h.rest_entries hc _ _ he
      have hdel : Delivers hub spec e.data e.isError ⟨Display.blank, c⟩ (r, s') :=
        hshow ▸ delivers_stored e (s := ⟨Display.blank, c⟩) rfl
      have hlook := isLookedUp_showStored hub now spec e.toJson ⟨Display.blank, c⟩
      rw [hshow] at hlook
      have hrest := (IsLookedUp.isRest hlook hsound).trans hc
      have hshows : ShowsAnswers hub t.answers source s'.display := by
        intro spec' hread' shown hs
        obtain rfl := Except.ok.inj (hread.symm.trans hread')
        rcases hdel.shows rfl hrecords hs with hs | hs
        · exact absurd hs List.not_mem_nil
        · exact .inr ⟨a, List.mem_of_find?_eq_some hlast, by
            simpa using List.find?_some hlast, hs⟩
      cases r with
      | ok outcome => exact h.finish hrest hknown hshows _
      | error fault => exact h.finish hrest hknown hshows _

theorem lastUnder?_cons_self (a : Answer) (answers : List Answer) :
    lastUnder? (a :: answers) a.pending.spec.cacheKey = some a :=
  List.find?_cons_of_pos (by simp)

theorem lastUnder?_cons_of_ne {a : Answer} {key : Text} (h : key ≠ a.pending.spec.cacheKey)
    (answers : List Answer) : lastUnder? (a :: answers) key = lastUnder? answers key :=
  List.find?_cons_of_neg (by simpa using Ne.symm h)

/-- A cycle goes on with the answer to its search. -/
theorem IsFaithful.settle (h : IsFaithful hub known t) (hnow : now.IsTold) {index : Nat}
    {source : Text} {d : Display} {p : Pending}
    (hindex : t.errands[index]? = some ⟨source, d, .searching p⟩)
    {outcome : Except SearchFailure Json} (ho : IsSearchOutcome outcome) :
    IsFaithful hub known (t.settle index source ⟨p, outcome⟩
      ((resume hub now p outcome).run.run ⟨d, t.cache⟩)) := by
  have herrand := h.errands _ (List.mem_of_getElem? hindex)
  obtain ⟨hasked, hread, hopen⟩ := herrand.searching p rfl
  obtain ⟨e, he⟩ : ∃ e, e = Entry.at now (recorded outcome).1 (recorded outcome).2 := ⟨_, rfl⟩
  have hrecords : e.Records outcome := by rw [he]; rfl
  obtain ⟨rest, hrest, hadd⟩ := h.sound.result_add now p.spec.cacheKey (recorded outcome).1
    (recorded outcome).2
  have hstored : ResultCache.add t.cache now p.spec.cacheKey e.data e.isError =
      (.ok e.toJson, rest.put p.spec.cacheKey e) := by
    rw [he]
    exact hadd
  have hlook := isLookedUp_resume hub (s := ⟨d, t.cache⟩) ho hrecords hstored
  have hdel : Delivers hub p.spec e.data e.isError ⟨d, rest.put p.spec.cacheKey e⟩
      ((resume hub now p outcome).run.run ⟨d, t.cache⟩) :=
    delivers_answer (s := ⟨d, t.cache⟩) ho hopen hrecords hstored
  obtain ⟨r, hr⟩ : ∃ r, r = (resume hub now p outcome).run.run ⟨d, t.cache⟩ := ⟨_, rfl⟩
  rw [← hr] at hlook hdel ⊢
  -- The outcome is stored before it is shown, and looking it up then takes at most entries away.
  have hput : (rest.put p.spec.cacheKey e).IsSound :=
    (hrest.isSound h.sound).put hnow _ (by rw [he]; rfl)
  have hafter := IsLookedUp.isRest hlook hput
  have hmore : t.answers ⊆ ⟨p, outcome⟩ :: t.answers := List.subset_cons_self _ _
  refine ⟨hafter.isSound hput, fun key e' hm => ?_, fun a ha => ?_, fun e' hm => ?_⟩
  · rcases Assoc.mem_of_mem_put (hrest.isSound h.sound).keys (hafter.entries.subset hm) with
      ⟨rfl, rfl⟩ | ⟨hne, hold⟩
    · exact ⟨⟨p, outcome⟩, lastUnder?_cons_self _ _, hrecords⟩
    · obtain ⟨a, hlast, ha⟩ := h.rest_entries hrest _ _ hold
      exact ⟨a, (lastUnder?_cons_of_ne (a := ⟨p, outcome⟩) hne _).trans hlast, ha⟩
  · rcases List.mem_cons.1 ha with rfl | ha
    · exact hasked
    · exact h.answers a ha
  · rcases List.mem_or_eq_of_mem_set hm with hm | rfl
    · exact (h.errands e' hm).mono (List.Subset.refl _) hmore
    · refine ⟨herrand.reads, fun spec hspec shown hs => ?_, fun p' hp => by cases hp⟩
      obtain rfl := Except.ok.inj (hread.symm.trans hspec)
      rcases hdel.shows hopen hrecords hs with hs | hs
      · exact herrand.shown.mono hmore _ hread shown hs
      · exact .inr ⟨_, List.mem_cons_self, rfl, hs⟩

/-- The texts from which an event's cycle reads its block, if it begins one. -/
def sourceOf? (hub : Hub) : Event → Option Text
  | .render source => some source
  | .refresh spec => some (spec.write hub.settings)
  | .answer _ _ => none

/-- What an event keeps. -/
theorem IsFaithful.step (h : IsFaithful hub known t) {event : Instant × Event}
    (husual : Event.IsUsual event)
    (hknown : ∀ source ∈ sourceOf? hub event.2, ∀ spec,
      Spec.read hub.settings source = .ok spec → known spec) :
    IsFaithful hub known (t.step hub event.1 event.2) := by
  obtain ⟨now, event⟩ := event
  cases event with
  | render source => exact h.launch (.refl _) (hknown source rfl)
  | refresh spec =>
    simp only [Traffic.step, run_startOver, MemoryCache.result_delete]
    exact h.launch (t.cache.isRest_erase _) (hknown _ rfl)
  | answer index outcome =>
    simp only [Traffic.step]
    split
    · rename_i source d p hindex
      exact h.settle husual.time hindex (husual.answer index outcome rfl)
    · exact h

theorem isFaithful_quiet (hub : Hub) (known : Spec → Prop) (ttl : Span) :
    IsFaithful hub known (quiet (MemoryCache.empty ttl)) where
  sound := MemoryCache.isSound_empty ttl
  entries _ _ h := absurd h List.not_mem_nil
  answers _ h := absurd h List.not_mem_nil
  errands _ h := absurd h List.not_mem_nil

theorem isFaithful_run (ttl : Span) {events : List (Instant × Event)}
    (husual : ∀ event ∈ events, Event.IsUsual event)
    (hknown : ∀ event ∈ events, ∀ source ∈ sourceOf? hub event.2, ∀ spec,
      Spec.read hub.settings source = .ok spec → known spec) :
    IsFaithful hub known ((quiet (MemoryCache.empty ttl)).run hub events) :=
  run_invariant (fun _ event he h => h.step (husual event he) (hknown event he))
    (isFaithful_quiet hub known ttl)

end Step

section Own

variable {hub : Hub} {known : Spec → Prop}

theorem lastFor?_eq_lastUnder? (hfree : Spec.HaveOwnKeys known) {answers : List Answer}
    (ha : ∀ a ∈ answers, known a.pending.spec) {spec : Spec} (hspec : known spec) :
    lastFor? answers spec = lastUnder? answers spec.cacheKey := by
  refine List.find?_congr fun a hmem => ?_
  rw [decide_eq_decide]
  exact ⟨fun h => Spec.cacheKey_congr h.1 h.2, hfree _ _ (ha a hmem) hspec⟩

theorem IsAsked.isFor (hfree : Spec.HaveOwnKeys known) {calls : List (Text × Int)} {a : Answer}
    (h : IsAsked hub known calls a.pending) {spec : Spec} (hspec : known spec)
    (hkey : a.pending.spec.cacheKey = spec.cacheKey) : a.IsFor hub spec := by
  obtain ⟨hquery, hlimit⟩ := hfree _ _ h.known hspec hkey
  refine ⟨hquery, hlimit, ?_⟩
  rw [h.limit, effectiveLimit, effectiveLimit, hlimit]

/-- However cycles overlap on a cache in memory that was empty at first: what it holds for a block is
the outcome of the last search for the query and the limit of the block, and whatever is shown for
a block is the outcome of such a search. -/
theorem outcomes_of_own_searches (hfree : Spec.HaveOwnKeys known) (ttl : Span)
    {events : List (Instant × Event)} (husual : ∀ event ∈ events, Event.IsUsual event)
    (hknown : ∀ event ∈ events, ∀ source ∈ sourceOf? hub event.2, ∀ spec,
      Spec.read hub.settings source = .ok spec → known spec) :
    let t := (quiet (MemoryCache.empty ttl)).run hub events
    (∀ spec e, known spec → t.cache.find? spec.cacheKey = some e →
      ∃ a, lastFor? t.answers spec = some a ∧ a.IsFor hub spec ∧
        (spec.query, effectiveLimit hub spec) ∈ t.calls ∧ e.Records a.outcome) ∧
    ∀ errand ∈ t.errands, ∀ spec, Spec.read hub.settings errand.source = .ok spec →
      ∀ shown ∈ errand.display.history, shown = (.loading, loadingText) ∨
        ∃ a ∈ t.answers, a.IsFor hub spec ∧ Shows hub spec shown a.outcome := by
  intro t
  have h : IsFaithful hub known t := isFaithful_run ttl husual hknown
  constructor
  · intro spec e hspec hfind
    obtain ⟨a, hlast, hrecords⟩ := h.entries _ _ (h.sound.find?_eq_some_iff.1 hfind)
    have hasked := h.answers a (List.mem_of_find?_eq_some hlast)
    have hfor := hasked.isFor hfree hspec (by simpa using List.find?_some hlast)
    refine ⟨a, ?_, hfor, ?_, hrecords⟩
    · rw [lastFor?_eq_lastUnder? hfree (fun a ha => (h.answers a ha).known) hspec, hlast]
    · rw [← hfor.query, ← hfor.asked]
      exact hasked.call
  · intro errand he spec hread shown hs
    rcases (h.errands errand he).shown spec hread shown hs with hload | ⟨a, ha, hkey, hshows⟩
    · exact .inl hload
    · have hspec := (h.errands errand he).reads spec hread
      exact .inr ⟨a, ha, (h.answers a ha).isFor hfree hspec hkey, hshows⟩

/-- Two searches for one block overlap, and the one that was asked for first is answered last. -/
theorem outcomes_of_overlapping_searches :
    let hub : Hub :=
      ⟨Settings.standard, (Column.defaults Settings.standard).toOption.getD []⟩
    let a : Spec := ⟨.table, "a", none, []⟩
    let b : Spec := ⟨.list, "b", some ⟨2, by decide⟩, []⟩
    let results : Json := .object [("issues", .list []), ("total", .int 0),
      ("account", .object [("alias", .text "A")])]
    let events : List (Instant × Event) := [(⟨0⟩, .render "a"), (⟨1⟩, .refresh a),
      (⟨2⟩, .render "type: list\nquery: b\nlimit: 2"), (⟨3⟩, .answer 1 (.error (.other "down"))),
      (⟨4⟩, .answer 2 (.ok results)), (⟨5⟩, .answer 0 (.ok results))]
    let t := (quiet (MemoryCache.empty ⟨900000000⟩)).run hub events
    Spec.HaveOwnKeys (· ∈ [a, b]) ∧ (∀ event ∈ events, Event.IsUsual event) ∧
      (∀ event ∈ events, ∀ source ∈ sourceOf? hub event.2, ∀ spec,
        Spec.read hub.settings source = .ok spec → spec ∈ [a, b]) ∧
      ∀ e, t.cache.find? a.cacheKey = some e →
        ∃ answer, lastFor? t.answers a = some answer ∧ e.Records answer.outcome := by
  intro hub a b results events t
  have hfree : Spec.HaveOwnKeys (· ∈ [a, b]) := by
    have hall : ∀ x ∈ [a, b], ∀ y ∈ [a, b], x.cacheKey = y.cacheKey →
        x.query = y.query ∧ x.limit = y.limit := by decide +kernel
    exact fun x y hx hy => hall x hx y hy
  have husual : ∀ event ∈ events, Event.IsUsual event := by
    intro event he
    simp only [events, List.mem_cons, List.not_mem_nil, or_false] at he
    rcases he with rfl | rfl | rfl | rfl | rfl | rfl
    · exact ⟨by decide +kernel, fun _ _ h => by cases h⟩
    · exact ⟨by decide +kernel, fun _ _ h => by cases h⟩
    · exact ⟨by decide +kernel, fun _ _ h => by cases h⟩
    · exact ⟨by decide +kernel, fun _ _ h => by cases h; trivial⟩
    · exact ⟨by decide +kernel, fun _ _ h => by cases h; exact ⟨_, rfl⟩⟩
    · exact ⟨by decide +kernel, fun _ _ h => by cases h; exact ⟨_, rfl⟩⟩
  have hread : ∀ event ∈ events, ∀ source ∈ sourceOf? hub event.2, ∀ spec,
      Spec.read hub.settings source = .ok spec → spec ∈ [a, b] := by
    have hall : ∀ event ∈ events, ∀ source ∈ sourceOf? hub event.2,
        Spec.read hub.settings source = .ok a ∨ Spec.read hub.settings source = .ok b := by
      intro event he source hs
      simp only [events, List.mem_cons, List.not_mem_nil, or_false] at he
      rcases he with rfl | rfl | rfl | rfl | rfl | rfl
      · cases hs
        exact .inl (by decide +kernel)
      · cases hs
        exact .inl (by decide +kernel)
      · cases hs
        exact .inr (by decide +kernel)
      · cases hs
      · cases hs
      · cases hs
    intro event he source hs spec hspec
    rcases hall event he source hs with h | h
    · exact List.mem_of_elem_eq_true (by cases h.symm.trans hspec; decide)
    · exact List.mem_of_elem_eq_true (by cases h.symm.trans hspec; decide)
  refine ⟨hfree, husual, hread, fun e he => ?_⟩
  obtain ⟨answer, hlast, -, -, hrecords⟩ :=
    (outcomes_of_own_searches hfree ⟨900000000⟩ husual hread).1 a e List.mem_cons_self he
  exact ⟨answer, hlast, hrecords⟩

end Own

end Traffic

end QueryFence
