import Mathlib.Data.List.Induction
import QueryFence.Proofs.Rounds.Recall
import QueryFence.Proofs.View.Table

/-!
The footer of a table. It does not get the time with the results but looks it up again, under a key
that other cycles store under too. A cycle does not wait between having its results and showing
them, and so the time is that of these results, however cycles overlap.
-/

namespace QueryFence

open QueryFence.Cycle QueryFence.Steps
open QueryFence.Traffic (entryOf)

theorem Instant.shownText_ne_missingTime (t : Instant) : t.shownText ≠ missingTime := by
  intro h
  have hblank : ' ' ∈ t.shownText := List.mem_append_right _ List.mem_cons_self
  rw [h] at hblank
  exact absurd hblank (by decide)

theorem Table.exists_of_writeUpToTime {settings : Settings} {columns : List Column} {results : Json}
    {body : Text} (h : writeUpToTime settings columns results = .ok body) :
    ∃ above, body = above ++ "\nLast update: " := by
  obtain ⟨headers, -, h⟩ := bind_eq_ok_iff.1 h
  obtain ⟨items, -, h⟩ := bind_eq_ok_iff.1 h
  obtain ⟨issues, -, h⟩ := bind_eq_ok_iff.1 h
  obtain ⟨rows, -, h⟩ := bind_eq_ok_iff.1 h
  obtain ⟨total, -, h⟩ := bind_eq_ok_iff.1 h
  exact ⟨_, (Except.ok.inj h).symm⟩

/-- A table of these results, and below it the time to the second at which they were stored. -/
structure Deposit.IsShownBy (hub : Hub) (spec : Spec) (d : Deposit) (t : Text) : Prop where
  results : d.isError = false
  table : ∃ above, Table.writeUpToTime hub.settings (shownColumns hub spec) d.data =
    .ok (above ++ "\nLast update: ") ∧ t = above ++ "\nLast update: " ++ d.time.shownText
  known : d.time.shownText ≠ missingTime

namespace Cycle

variable {σ : Type} {hub : Hub} {now : Instant} {spec : Spec} {d : Deposit} {t : Text}

theorem isShownBy_of_textOfResults (hmode : spec.mode = .table) (hresults : d.isError = false)
    (htold : d.time.IsTold)
    (h : textOfResults hub spec d.data (.ok (some d.entry.toJson)) = .ok t) :
    d.IsShownBy hub spec t := by
  have htime : timeText (.ok (some d.entry.toJson)) = .ok d.time.shownText :=
    Deposit.shownTime_toJson htold
  rw [textOfResults, hmode, htime] at h
  dsimp only at h
  split at h
  · cases h
  · next body hbody =>
    cases h
    obtain ⟨above, rfl⟩ := Table.exists_of_writeUpToTime hbody
    exact ⟨hresults, ⟨above, hbody, rfl⟩, d.time.shownText_ne_missingTime⟩

theorem textOfRecord_of_results (hresults : d.isError = false)
    (found : Except Fault (Option Json)) :
    textOfRecord hub spec d.entry.toJson found = textOfResults hub spec d.data found := by
  have herror : d.entry.toJson.item "is_error" = .ok (.bool false) := by rw [← hresults]; rfl
  have hdata : d.entry.toJson.item "data" = .ok d.data := rfl
  simp only [textOfRecord, herror, hdata]
  rfl

/-- A cycle that delivers shows at most one text more, and results only if it has some. -/
theorem Delivers.history_eq {data : Json} {isError : Bool} {s : Scene σ}
    {r : Except Fault Outcome × Scene σ} (h : Delivers hub spec data isError s r) :
    r.2.display.history = s.display.history ∨
      ∃ x, r.2.display.history = s.display.history ++ [x] ∧
        (x.1 = .results → isError = false ∧ shown r = .ok x.2) := by
  cases h with
  | error _ => exact .inr ⟨_, rfl, fun hx => by cases hx⟩
  | results hresults _ => exact .inr ⟨_, rfl, fun _ => ⟨hresults, rfl⟩⟩
  | fault _ => exact .inl rfl

variable [ResultCache σ]

/-- A table is dated by the deposit that was made last under the key of its block, and is found
there. -/
def IsDated (hub : Hub) (spec : Spec) (log : List (Text × Deposit)) (now : Instant) (cache : σ)
    (t : Text) : Prop :=
  ∃ d, log.lookup spec.cacheKey = some d ∧
    (ResultCache.get cache now spec.cacheKey).1 = .ok (some d.entry.toJson) ∧ d.IsShownBy hub spec t

/-- A display shows nothing more, or one text more, which is dated if it is a table. -/
def AddsDated (hub : Hub) (source : Text) (log : List (Text × Deposit)) (now : Instant) (cache : σ)
    (old new : List (Showing × Text)) : Prop :=
  new = old ∨ ∃ x, new = old ++ [x] ∧ ∀ spec, Spec.read hub.settings source = .ok spec →
    spec.mode = .table → x.1 = .results → IsDated hub spec log now cache x.2

variable {source : Text} {log : List (Text × Deposit)} {s : Scene σ}

theorem addsDated_concat {call : Showing} (hcall : call ≠ .results) (t : Text) (cache : σ)
    (old : List (Showing × Text)) : AddsDated hub source log now cache old (old ++ [(call, t)]) :=
  .inr ⟨_, rfl, fun _ _ _ h => absurd h hcall⟩

/-- A cycle that delivers the last deposit under its key, as it is found once it is shown. -/
theorem Delivers.addsDated {r : Except Fault Outcome × Scene σ}
    (h : Delivers hub spec d.data d.isError s r) (hread : Spec.read hub.settings source = .ok spec)
    (hlast : log.lookup spec.cacheKey = some d) (htold : d.time.IsTold)
    (hfound : (ResultCache.get r.2.cache now spec.cacheKey).1 = .ok (some d.entry.toJson))
    (htext : d.isError = false →
      shown r = textOfResults hub spec d.data (.ok (some d.entry.toJson))) :
    AddsDated hub source log now r.2.cache s.display.history r.2.display.history := by
  rcases h.history_eq with hsame | ⟨x, hnew, hx⟩
  · exact .inl hsame
  · refine .inr ⟨x, hnew, fun spec' hread' hmode hcall => ?_⟩
    obtain rfl := Except.ok.inj (hread.symm.trans hread')
    obtain ⟨hresults, hshown⟩ := hx hcall
    have ht := (htext hresults).symm.trans hshown
    exact ⟨d, hlast, hfound, isShownBy_of_textOfResults hmode hresults htold ht⟩

end Cycle

namespace MemoryCache

variable {hub : Hub} {now : Instant} {c : MemoryCache} {log : List (Text × Deposit)} {source : Text}

/-- The cache holds nothing but the last deposits under its keys, and does not drop what is new. -/
structure IsLogged (log : List (Text × Deposit)) (c : MemoryCache) : Prop where
  sound : c.IsSound
  ttl : 0 ≤ c.ttl.micros
  told : ∀ key d, (key, d) ∈ log → d.time.IsTold
  entries : ∀ key e, (key, e) ∈ c.entries → ∃ d, log.lookup key = some d ∧ e = d.entry

theorem isLogged_empty {ttl : Span} (httl : 0 ≤ ttl.micros) : IsLogged [] (empty ttl) where
  sound := isSound_empty ttl
  ttl := httl
  told _ _ h := absurd h List.not_mem_nil
  entries _ _ h := absurd h List.not_mem_nil

theorem IsLogged.rest (h : c.IsLogged log) {rest : MemoryCache} (hrest : rest.IsRest c) :
    rest.IsLogged log where
  sound := hrest.isSound h.sound
  ttl := hrest.ttl ▸ h.ttl
  told := h.told
  entries key e he := h.entries key e (hrest.entries.subset he)

theorem IsLogged.put (h : c.IsLogged log) {d : Deposit} (htold : d.time.IsTold) (key : Text) :
    (c.put key d.entry).IsLogged ((key, d) :: log) where
  sound := h.sound.put htold key rfl
  ttl := h.ttl
  told key' d' hm := by
    rcases List.mem_cons.1 hm with heq | hm
    · cases heq
      exact htold
    · exact h.told key' d' hm
  entries key' e he := by
    rcases Assoc.mem_of_mem_put h.sound.keys he with ⟨rfl, rfl⟩ | ⟨hne, hold⟩
    · exact ⟨d, List.lookup_cons_self, rfl⟩
    · obtain ⟨d', hlast, he⟩ := h.entries key' e hold
      refine ⟨d', ?_, he⟩
      rw [List.lookup_cons, beq_false_of_ne hne]
      exact hlast

/-- A cycle up to its search: what it finds is the last deposit under its key. -/
theorem IsLogged.start (h : c.IsLogged log) (hub : Hub) (now : Instant) (source : Text) :
    let r := (Cycle.start hub now source).run.run ⟨Display.blank, c⟩
    r.2.cache.IsLogged log ∧ AddsDated hub source log now r.2.cache [] r.2.display.history := by
  intro r
  have hb : Begins hub now source ⟨Display.blank, c⟩ r := start_begins source _
  clear_value r
  cases hb with
  | unread _ => exact ⟨h, .inl rfl⟩
  | rejected _ => exact ⟨h, addsDated_concat (by decide) _ _ []⟩
  | broken _ hget => exact ⟨h.rest (h.sound.rest_of_get hget), .inl rfl⟩
  | missed _ hget => exact ⟨h.rest (h.sound.rest_of_get hget), addsDated_concat (by decide) _ _ []⟩
  | @found spec record after r s' hread hget hshow =>
    rcases h.sound.result_get now spec.cacheKey with ⟨rest, -, hnone⟩ | ⟨e, he, hsome⟩
    · cases hnone.symm.trans hget
    · obtain ⟨d, hlast, rfl⟩ := h.entries _ _ he
      cases hsome.symm.trans hget
      have hafter : s'.cache = c := by
        have hlook := isLookedUp_showStored hub now spec d.entry.toJson ⟨Display.blank, c⟩
        rw [hshow] at hlook
        rcases hlook with hlook | hlook
        · exact hlook
        · rw [hlook, hsome]
      have hdel : Delivers hub spec d.data d.isError ⟨Display.blank, c⟩ (r, s') :=
        hshow ▸ delivers_stored d.entry rfl
      have htext := shown_showStored hub now spec d.entry.toJson (s := ⟨Display.blank, c⟩) rfl
      rw [hshow, hsome] at htext
      refine ⟨hafter ▸ h, hdel.addsDated hread hlast ?_ ?_ fun hresults => ?_⟩
      · exact h.told spec.cacheKey d (Assoc.mem_of_lookup_eq_some hlast)
      · rw [hafter, hsome]
      · rw [htext, textOfRecord_of_results hresults]

/-- A cycle with the answer to its search: what it shows is the deposit that it makes. -/
theorem IsLogged.resume (h : c.IsLogged log) (hnow : now.IsTold) {p : Pending}
    {outcome : Except SearchFailure Json} (houtcome : IsSearchOutcome outcome) {display : Display}
    (hopen : display.closed = false) (hread : Spec.read hub.settings source = .ok p.spec) :
    let r := (Cycle.resume hub now p outcome).run.run ⟨display, c⟩
    let log' := (p.spec.cacheKey, Deposit.ofAnswer now outcome) :: log
    r.2.cache.IsLogged log' ∧
      AddsDated hub source log' now r.2.cache display.history r.2.display.history := by
  intro r log'
  have htold : (Deposit.ofAnswer now outcome).time.IsTold := hnow
  obtain ⟨rest, hrest, hadd⟩ := h.sound.result_add now p.spec.cacheKey (recorded outcome).1
    (recorded outcome).2
  have hstored : ResultCache.add c now p.spec.cacheKey (entryOf now outcome).data
      (entryOf now outcome).isError =
      (.ok (entryOf now outcome).toJson,
        rest.put p.spec.cacheKey (entryOf now outcome)) := hadd
  have hput : (rest.put p.spec.cacheKey (entryOf now outcome)).IsLogged log' :=
    (h.rest hrest).put htold p.spec.cacheKey
  have hlook := isLookedUp_resume hub (s := ⟨display, c⟩) houtcome rfl hstored
  have hdel : Delivers hub p.spec (entryOf now outcome).data (entryOf now outcome).isError
      ⟨display, rest.put p.spec.cacheKey (entryOf now outcome)⟩ r :=
    delivers_answer (s := ⟨display, c⟩) houtcome hopen rfl hstored
  obtain ⟨htext, -, hrecalls⟩ :
      shown r = textOfAnswer hub p.spec outcome
        (.ok (some (Deposit.ofAnswer now outcome).entry.toJson)) ∧
      _ ∧ Recalls c.ttl r.2.cache p.spec.cacheKey (.ofAnswer now outcome) :=
    resume_of_storesFor (s := ⟨display, c⟩) houtcome hopen h.ttl
      (h.sound.storesFor htold p.spec.cacheKey)
  have hlive : (Deposit.ofAnswer now outcome).isLive c.ttl now = true := by
    rw [Deposit.isLive, Deposit.ofAnswer, Int.sub_self]
    exact decide_eq_true h.ttl
  refine ⟨hput.rest (Traffic.IsLookedUp.isRest hlook hput.sound), ?_⟩
  refine hdel.addsDated (d := .ofAnswer now outcome) hread List.lookup_cons_self htold ?_
    fun hresults => ?_
  · rw [hrecalls now hlive]
  · cases outcome with
    | error failure => cases hresults
    | ok results => exact htext

end MemoryCache

namespace Traffic

variable {σ : Type}

/-- A turn of one of the tasks that share a cache: a cycle begins or goes on, or a block of a document
begins. It starts over if the document is refreshed. -/
inductive Turn
  | cycle (event : Event)
  | block (refresh : Bool) (source : Text)

def Turn.event (hub : Hub) : Turn → Event
  | .cycle event => event
  | .block false source => .render source
  | .block true source =>
    match Spec.read hub.settings source with
    | .ok spec => .refresh spec
    | .error _ => .render source

/-- The text that the cycle of a block of a document reads. -/
def blockText (hub : Hub) (refresh : Bool) (source : Text) : Text :=
  (sourceOf? hub (Turn.event hub (.block refresh source))).getD source

/-- The deposit that an event makes: the answer that a cycle has waited for, under the key of its
block. -/
def deposit? (t : Traffic σ) (now : Instant) : Event → Option (Text × Deposit)
  | .answer index outcome =>
    match t.errands[index]? with
    | some ⟨_, _, .searching p⟩ => some (p.spec.cacheKey, .ofAnswer now outcome)
    | _ => none
  | _ => none

def shownAt (t : Traffic σ) (index : Nat) : List (Showing × Text) :=
  match t.errands[index]? with
  | some e => e.display.history
  | none => []

variable [ResultCache σ] {hub : Hub}

def turn (hub : Hub) (t : Traffic σ) (now : Instant) : Turn → Traffic σ
  | .cycle event => t.step hub now event
  | .block refresh source => t.launch (blockText hub refresh source)
      ((startBlock hub now refresh source).run.run ⟨Display.blank, t.cache⟩)

def turns (hub : Hub) (t : Traffic σ) (turns : List (Instant × Turn)) : Traffic σ :=
  turns.foldl (fun t turn => t.turn hub turn.1 turn.2) t

/-- The deposits that turns make, the last one first. -/
def deposits (hub : Hub) : Traffic σ → List (Instant × Turn) → List (Text × Deposit)
  | _, [] => []
  | t, turn :: turns => deposits hub (t.turn hub turn.1 turn.2) turns ++
      (t.deposit? turn.1 (turn.2.event hub)).toList

theorem turns_concat (t : Traffic σ) (turns : List (Instant × Turn)) (turn : Instant × Turn) :
    t.turns hub (turns ++ [turn]) = (t.turns hub turns).turn hub turn.1 turn.2 := by
  rw [Traffic.turns, List.foldl_concat]
  rfl

theorem deposits_concat (t : Traffic σ) (turns : List (Instant × Turn)) (turn : Instant × Turn) :
    deposits hub t (turns ++ [turn]) =
      ((t.turns hub turns).deposit? turn.1 (turn.2.event hub)).toList ++ deposits hub t turns := by
  induction turns generalizing t with
  | nil => simp only [List.nil_append, deposits, List.append_nil, Traffic.turns, List.foldl_nil]
  | cons first turns ih =>
    rw [List.cons_append, deposits, ih, deposits, List.append_assoc]
    rfl

/-- A block of a document is rendered, or refreshed if it can be read. -/
theorem turn_eq_step (t : Traffic σ) (now : Instant) (turn : Turn) :
    t.turn hub now turn = t.step hub now (turn.event hub) := by
  cases turn with
  | cycle event => rfl
  | block refresh source =>
    cases refresh with
    | false => rfl
    | true =>
      rw [Traffic.turn, blockText, Turn.event, startBlock, if_pos rfl]
      cases hread : Spec.read hub.settings source with
      | ok spec => rfl
      | error failure =>
        cases failure with
        | rejected error => rfl
        | fault fault => simp only [step, start, hread]; rfl

section Dated

variable {t t' : Traffic MemoryCache} {now : Instant} {log : List (Text × Deposit)}

/-- What a turn does to every cycle: it reads the text that it has read, and shows at most one text
more, which is dated if it is a table. -/
def TurnsDated (hub : Hub) (log : List (Text × Deposit)) (now : Instant)
    (t t' : Traffic MemoryCache) : Prop :=
  ∀ index e', t'.errands[index]? = some e' →
    (∀ e, t.errands[index]? = some e → e.source = e'.source) ∧
      AddsDated hub e'.source log now t'.cache (t.shownAt index) e'.display.history

theorem addsDated_shownAt {index : Nat} {e : Errand} (h : t.errands[index]? = some e)
    (source : Text) (cache : MemoryCache) :
    AddsDated hub source log now cache (t.shownAt index) e.display.history := by
  rw [shownAt, h]
  exact .inl rfl

theorem turnsDated_refl (hub : Hub) (log : List (Text × Deposit)) (now : Instant)
    (t : Traffic MemoryCache) : TurnsDated hub log now t t := by
  intro index e he
  refine ⟨fun e' he' => ?_, addsDated_shownAt he _ _⟩
  cases he.symm.trans he'
  rfl

theorem turnsDated_launch {source : Text} {r : Except Fault Begun × Scene MemoryCache}
    (h : AddsDated hub source log now r.2.cache [] r.2.display.history) :
    TurnsDated hub log now t (t.launch source r) := by
  obtain ⟨stage, herrands⟩ := launch_errands t source r
  intro index e' he'
  rw [launch_cache]
  rw [herrands] at he'
  rcases Nat.lt_or_ge index t.errands.length with hlt | hge
  · rw [List.getElem?_append_left hlt] at he'
    refine ⟨fun e he => ?_, addsDated_shownAt he' _ _⟩
    cases he.symm.trans he'
    rfl
  · have hnone : t.errands[index]? = none := List.getElem?_eq_none hge
    rw [List.getElem?_append_right hge, List.getElem?_singleton] at he'
    obtain ⟨-, he'⟩ := Option.ite_none_right_eq_some.1 he'
    cases he'
    rw [shownAt, hnone]
    exact ⟨nofun, h⟩

theorem turnsDated_settle {index : Nat} {source : Text} {display : Display} {stage : Stage}
    (hindex : t.errands[index]? = some ⟨source, display, stage⟩) (a : Answer)
    {r : Except Fault Outcome × Scene MemoryCache}
    (h : AddsDated hub source log now r.2.cache display.history r.2.display.history) :
    TurnsDated hub log now t (t.settle index source a r) := by
  intro other e' he'
  have herrands : (t.settle index source a r).errands =
      t.errands.set index ⟨source, r.2.display, .ended r.1⟩ := rfl
  rw [herrands] at he'
  by_cases hother : index = other
  · subst hother
    rw [List.getElem?_set_self (List.getElem?_eq_some_iff.1 hindex).1] at he'
    cases he'
    refine ⟨fun e he => ?_, ?_⟩
    · cases hindex.symm.trans he
      rfl
    · rw [shownAt, hindex]
      exact h
  · rw [List.getElem?_set_ne hother] at he'
    refine ⟨fun e he => ?_, addsDated_shownAt he' _ _⟩
    cases he.symm.trans he'
    rfl

/-- The invariant of the cycles: a cache that is logged, and open displays where searches are waited
for. -/
structure IsLogged (hub : Hub) (log : List (Text × Deposit)) (t : Traffic MemoryCache) : Prop where
  cache : t.cache.IsLogged log
  faithful : IsFaithful hub (fun _ => True) t

/-- What an event keeps, and what it shows. -/
theorem IsLogged.step (h : IsLogged hub log t) {event : Event}
    (husual : Event.IsUsual (now, event)) :
    let log' := (t.deposit? now event).toList ++ log
    IsLogged hub log' (t.step hub now event) ∧
      TurnsDated hub log' now t (t.step hub now event) := by
  intro log'
  have hfaithful : IsFaithful hub (fun _ => True) (t.step hub now event) :=
    h.faithful.step husual fun _ _ _ _ => trivial
  suffices hstep : (t.step hub now event).cache.IsLogged log' ∧
      TurnsDated hub log' now t (t.step hub now event) from
    ⟨⟨hstep.1, hfaithful⟩, hstep.2⟩
  cases event with
  | render source =>
    obtain ⟨hcache, hadds⟩ := h.cache.start hub now source
    exact ⟨launch_cache t source _ ▸ hcache, turnsDated_launch hadds⟩
  | refresh spec =>
    have hrest := h.cache.rest (t.cache.isRest_erase spec.cacheKey)
    obtain ⟨hcache, hadds⟩ := hrest.start hub now (spec.write hub.settings)
    simp only [Traffic.step, run_startOver, MemoryCache.result_delete]
    exact ⟨launch_cache t _ _ ▸ hcache, turnsDated_launch hadds⟩
  | answer index outcome =>
    clear hfaithful
    simp only [Traffic.step, log', deposit?]
    cases hindex : t.errands[index]? with
    | none => exact ⟨h.cache, turnsDated_refl hub log now t⟩
    | some e =>
      obtain ⟨source, display, stage⟩ := e
      cases stage with
      | ended result => exact ⟨h.cache, turnsDated_refl hub log now t⟩
      | searching p =>
        have herrand := h.faithful.errands _ (List.mem_of_getElem? hindex)
        obtain ⟨-, hread, hopen⟩ := herrand.searching p rfl
        have houtcome := husual.answer index outcome rfl
        obtain ⟨hcache, hadds⟩ := h.cache.resume husual.time houtcome hopen hread
        exact ⟨hcache, turnsDated_settle hindex _ hadds⟩

variable {ttl : Span} {turns : List (Instant × Turn)}

theorem isLogged_turns (httl : 0 ≤ ttl.micros)
    (husual : ∀ turn ∈ turns, Event.IsUsual (turn.1, turn.2.event hub)) :
    IsLogged hub (deposits hub (quiet (MemoryCache.empty ttl)) turns)
      ((quiet (MemoryCache.empty ttl)).turns hub turns) := by
  induction turns using List.reverseRecOn with
  | nil => exact ⟨MemoryCache.isLogged_empty httl, isFaithful_quiet hub _ ttl⟩
  | append_singleton turns turn ih =>
    rw [List.forall_mem_append, List.forall_mem_singleton] at husual
    rw [turns_concat, deposits_concat, turn_eq_step]
    exact ((ih husual.1).step husual.2).1

/-- However renderings, refreshes and documents overlap on a cache in memory, every table is dated in
the turn in which it is shown: its results are those that were stored last under the key of its
block by then, they are in the cache, and its footer tells to the second when they were stored. -/
theorem tables_are_dated (httl : 0 ≤ ttl.micros)
    (husual : ∀ turn ∈ turns, Event.IsUsual (turn.1, turn.2.event hub)) {index : Nat} {e : Errand}
    (he : ((quiet (MemoryCache.empty ttl)).turns hub turns).errands[index]? = some e) {spec : Spec}
    (hread : Spec.read hub.settings e.source = .ok spec) (hmode : spec.mode = .table) {text : Text}
    (hshown : (.results, text) ∈ e.display.history) :
    let start := quiet (MemoryCache.empty ttl)
    ∃ before turn after, turns = before ++ turn :: after ∧
      (start.turns hub (before ++ [turn])).shownAt index =
        (start.turns hub before).shownAt index ++ [(.results, text)] ∧
      IsDated hub spec (deposits hub start (before ++ [turn])) turn.1
        (start.turns hub (before ++ [turn])).cache text := by
  intro start
  induction turns using List.reverseRecOn generalizing e with
  | nil => cases he
  | append_singleton turns turn ih =>
    rw [List.forall_mem_append, List.forall_mem_singleton] at husual
    obtain ⟨-, hturn⟩ := (isLogged_turns httl husual.1).step husual.2
    have hafter : start.turns hub (turns ++ [turn]) =
        (start.turns hub turns).step hub turn.1 (turn.2.event hub) := by
      rw [turns_concat, turn_eq_step]
    rw [hafter] at he
    obtain ⟨hsource, hadds⟩ := hturn index e he
    by_cases hold : (.results, text) ∈ (start.turns hub turns).shownAt index
    · -- it was shown in an earlier turn
      rw [shownAt] at hold
      split at hold
      · next e' he' =>
        obtain ⟨before, turn', after, rfl, hdated⟩ := ih husual.1 he' (hsource e' he' ▸ hread) hold
        refine ⟨before, turn', after ++ [turn], ?_, hdated⟩
        rw [List.append_assoc, List.cons_append]
      · cases hold
    · refine ⟨turns, turn, [], rfl, ?_⟩
      rcases hadds with hsame | ⟨x, hnew, hdated⟩
      · rw [hsame] at hshown
        exact absurd hshown hold
      · rw [hnew, List.mem_append, List.mem_singleton] at hshown
        obtain rfl := hshown.resolve_left hold
        rw [deposits_concat, hafter]
        refine ⟨?_, hdated spec hread hmode rfl⟩
        rw [shownAt, he]
        exact hnew

/-- The block of a refreshed document is answered before a rendering that asked for the same search
earlier, and the block of another document then finds what that rendering has stored. -/
theorem tables_are_dated_of_overwritten_results :
    let hub : Hub := ⟨Settings.standard, [⟨false, .field .key⟩]⟩
    let results (key : Text) : Json := .object [("issues", .list [.object [("key", .text key)]]),
      ("total", .int 1), ("account", .object [("alias", .text "A"), ("color", .text "#0")])]
    let turns : List (Instant × Turn) := [(⟨63850118400000000⟩, .cycle (.render "a")),
      (⟨63850118401000000⟩, .block true "a"),
      (⟨63850118402000000⟩, .cycle (.answer 1 (.ok (results "K-1")))),
      (⟨63850118403000000⟩, .cycle (.answer 0 (.ok (results "K-2")))),
      (⟨63850118404999999⟩, .block false "a")]
    let start := quiet (MemoryCache.empty ⟨900000000⟩)
    let spec : Spec := ⟨.table, "a", none, []⟩
    let text : Text :=
      "| Key |\n| --- |\n| K-2 |\n\nTotal results: 1 - A (#0)\nLast update: 2024-05-01 00:00:03"
    ∃ e, ((0 : Int) ≤ 900000000 ∧
        (∀ turn ∈ turns, Event.IsUsual (turn.1, turn.2.event hub)) ∧
        (start.turns hub turns).errands[2]? = some e ∧ Spec.read hub.settings e.source = .ok spec ∧
        spec.mode = .table ∧ (.results, text) ∈ e.display.history) ∧
      ∃ before turn after, turns = before ++ turn :: after ∧
        (start.turns hub (before ++ [turn])).shownAt 2 =
          (start.turns hub before).shownAt 2 ++ [(.results, text)] ∧
        IsDated hub spec (deposits hub start (before ++ [turn])) turn.1
          (start.turns hub (before ++ [turn])).cache text := by
  intro hub results turns start spec text
  have husual : ∀ turn ∈ turns, Event.IsUsual (turn.1, turn.2.event hub) := by
    simp only [turns, List.forall_mem_cons]
    refine ⟨?_, ?_, ?_, ?_, ?_, fun _ h => absurd h List.not_mem_nil⟩
    · exact ⟨by decide, fun _ _ h => by cases h⟩
    · refine ⟨by decide, fun _ _ h => ?_⟩
      have hread : Spec.read hub.settings "a" = .ok spec := by decide +kernel
      simp only [Turn.event, hread] at h
      cases h
    · exact ⟨by decide, fun _ _ h => by cases h; exact ⟨_, rfl⟩⟩
    · exact ⟨by decide, fun _ _ h => by cases h; exact ⟨_, rfl⟩⟩
    · exact ⟨by decide, fun _ _ h => by cases h⟩
  have hlast : (start.turns hub turns).errands[2]?.map (fun e => (e.source, e.display.history)) =
      some ("a".toList, [(.results, text)]) := by decide +kernel
  obtain ⟨e, he, hpair⟩ := Option.map_eq_some_iff.1 hlast
  obtain ⟨hsource, hhistory⟩ := Prod.mk.inj hpair
  have hread : Spec.read hub.settings e.source = .ok spec := by
    rw [hsource]
    decide +kernel
  have hshown : (.results, text) ∈ e.display.history := hhistory ▸ List.mem_cons_self
  exact ⟨e, ⟨by decide, husual, he, hread, rfl, hshown⟩,
    tables_are_dated (by decide) husual he hread rfl hshown⟩

end Dated

end Traffic

end QueryFence
