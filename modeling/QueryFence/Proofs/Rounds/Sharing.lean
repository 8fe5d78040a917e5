import QueryFence.Proofs.Rounds.Ending
import QueryFence.Rounds

/-!
Blocks that share a cache while the clock stands still. A block finds there what it would find at first,
or an answer to its own search that another block has stored; so it shows what it would show alone.
-/

namespace QueryFence

open QueryFence.Cycle QueryFence.Traffic

/-- A look-up finds what was found at first, or an answer where nothing was found. -/
def IsFoundAs (lasts : Bool) (e : Entry) (atFirst found : Except Fault (Option Json)) : Prop :=
  found = atFirst ∨ (lasts = true ∧ atFirst = .ok none ∧ found = .ok (some e.toJson))

theorem isFoundAs_stored {atFirst : Except Fault (Option Json)} (h : atFirst = .ok none)
    (lasts : Bool) (e : Entry) :
    IsFoundAs lasts e atFirst (.ok (if lasts then some e.toJson else none)) := by
  cases lasts with
  | true => exact .inr ⟨rfl, h, rfl⟩
  | false => exact .inl h.symm

/-- The states that a cache may come to while blocks are rendered on it at an instant: each of them
looks up under its own key, and stores the answer to its search where it found nothing at first. -/
structure Sharing (σ : Type) [ResultCache σ] (now : Instant) (known : Spec → Prop)
    (answer : Spec → Except SearchFailure Json) (first : σ) where
  Reached : σ → Prop
  /-- Whether an answer is still found at the instant at which it was stored. -/
  lasts : Bool
  initial : Reached first
  found : ∀ {c : σ} {spec : Spec}, Reached c → known spec →
    IsFoundAs lasts (entryOf now (answer spec)) (ResultCache.get first now spec.cacheKey).1
      (ResultCache.get c now spec.cacheKey).1
  get : ∀ {c : σ} {spec : Spec}, Reached c → known spec →
    Reached (ResultCache.get c now spec.cacheKey).2 ∧
      (ResultCache.get (ResultCache.get c now spec.cacheKey).2 now spec.cacheKey).1 =
        (ResultCache.get c now spec.cacheKey).1
  /-- Where an answer could be stored at first, it can be stored later on. -/
  add : ∀ {c : σ} {spec : Spec}, Reached c → known spec →
    (ResultCache.get first now spec.cacheKey).1 = .ok none →
    (∃ record, (ResultCache.add (ResultCache.get first now spec.cacheKey).2 now spec.cacheKey
      (recorded (answer spec)).1 (recorded (answer spec)).2).1 = .ok record) →
    ∃ after, ResultCache.add c now spec.cacheKey (recorded (answer spec)).1
        (recorded (answer spec)).2 = (.ok (entryOf now (answer spec)).toJson, after) ∧
      Reached after ∧ (ResultCache.get after now spec.cacheKey).1 =
        .ok (if lasts then some (entryOf now (answer spec)).toJson else none)

namespace Sharing

variable {σ : Type} [ResultCache σ] {now : Instant} {known : Spec → Prop}
  {answer : Spec → Except SearchFailure Json} {first : σ}

/-- What a block finds that has just stored the answer to its search. -/
def fresh (S : Sharing σ now known answer first) (spec : Spec) : Except Fault (Option Json) :=
  .ok (if S.lasts then some (entryOf now (answer spec)).toJson else none)

/-- A block that searches, and what it shows for the answer. -/
structure Searches (S : Sharing σ now known answer first) (hub : Hub) (spec : Spec) (t : Text) :
    Prop where
  known : known spec
  missing : (ResultCache.get first now spec.cacheKey).1 = .ok none
  isOutcome : IsSearchOutcome (answer spec)
  stored : ∃ record, (ResultCache.add (ResultCache.get first now spec.cacheKey).2 now spec.cacheKey
    (recorded (answer spec)).1 (recorded (answer spec)).2).1 = .ok record
  text : textOfAnswer hub spec (answer spec) (S.fresh spec) = .ok t

/-- How a block comes to its text on the cache as it was at first. -/
inductive Shows (S : Sharing σ now known answer first) (hub : Hub) (source t : Text) : Prop
  | rejected {error : SpecError} (hread : Spec.read hub.settings source = .error (.rejected error))
      (ht : errorText hub.settings (.text error.message) none = t)
  | stored {spec : Spec} {record : Json} (hread : Spec.read hub.settings source = .ok spec)
      (hknown : known spec)
      (hfound : (ResultCache.get first now spec.cacheKey).1 = .ok (some record))
      (ht : textOfRecord hub spec record (.ok (some record)) = .ok t)
  | searched {spec : Spec} (hread : Spec.read hub.settings source = .ok spec)
      (hsearch : S.Searches hub spec t)

/-- A step of a cycle ends well with a text shown, and leaves the cache in a state that is accounted
for. -/
structure EndsWith (S : Sharing σ now known answer first) {α : Type}
    (r : Except Fault α × Scene σ) (t : Text) : Prop where
  shown : shown r = .ok t
  reached : S.Reached r.2.cache

variable {S : Sharing σ now known answer first} {hub : Hub} {source t : Text} {spec : Spec}

theorem reached_of_isLookedUp {c after : σ} (hc : S.Reached c) (hk : known spec)
    (h : IsLookedUp now spec.cacheKey c after) : S.Reached after := by
  rcases h with rfl | rfl
  · exact hc
  · exact (S.get hc hk).1

theorem endsWith_showStored (hub : Hub) {c : σ} (hc : S.Reached c) (hk : known spec) {record : Json}
    (hfound : (ResultCache.get c now spec.cacheKey).1 = .ok (some record))
    (ht : textOfRecord hub spec record (.ok (some record)) = .ok t) :
    S.EndsWith ((showStored hub now spec record).run.run
      ⟨Display.blank, (ResultCache.get c now spec.cacheKey).2⟩) t := by
  obtain ⟨hafter, hsame⟩ := S.get hc hk
  constructor
  · rw [shown_showStored hub now spec record rfl, hsame, hfound]
    exact ht
  · exact reached_of_isLookedUp hafter hk (isLookedUp_showStored hub now spec record _)

theorem Searches.resume (h : S.Searches hub spec t) {s : Scene σ} (hc : S.Reached s.cache)
    (hopen : s.display.closed = false) (limit : Int) :
    S.EndsWith ((resume hub now ⟨spec, limit⟩ (answer spec)).run.run s) t := by
  obtain ⟨after, hadd, hreached, hfound⟩ := S.add hc h.known h.missing h.stored
  constructor
  · rw [shown_resume (p := ⟨spec, limit⟩) h.isOutcome hopen hadd, hfound]
    exact h.text
  · exact reached_of_isLookedUp hreached h.known
      (isLookedUp_resume hub (p := ⟨spec, limit⟩) h.isOutcome (e := entryOf now (answer spec)) rfl
        hadd)

/-- A block starts by its end, or by the search that it would ask for alone. -/
inductive Starts (S : Sharing σ now known answer first) (hub : Hub) (t : Text) :
    Except Fault Begun × Scene σ → Prop
  | finished {outcome : Outcome} {s : Scene σ} (h : S.EndsWith (.ok outcome, s) t) :
    Starts S hub t (.ok (.finished outcome), s)
  | searching {spec : Spec} {s : Scene σ} (h : S.Searches hub spec t) (hc : S.Reached s.cache)
      (hopen : s.display.closed = false) :
    Starts S hub t (.ok (.searching ⟨spec, effectiveLimit hub spec⟩), s)

theorem EndsWith.ok_of_eq {r : Except Fault Outcome} {s : Scene σ} (h : S.EndsWith (r, s) t) :
    ∃ outcome, r = .ok outcome := (shown_eq_ok_iff.1 h.shown).1

/-- From every state of the cache a block starts so as to show what it would show alone. -/
theorem Shows.starts (h : S.Shows hub source t) {c : σ} (hc : S.Reached c) :
    S.Starts hub t ((Cycle.start hub now source).run.run ⟨Display.blank, c⟩) := by
  obtain ⟨r, hr⟩ : ∃ r, r = (Cycle.start hub now source).run.run ⟨Display.blank, c⟩ := ⟨_, rfl⟩
  have hb : Begins hub now source ⟨Display.blank, c⟩ r := hr ▸ start_begins source _
  rw [← hr]
  cases h with
  | rejected hread ht =>
    cases hb with
    | rejected hread' =>
      cases hread.symm.trans hread'
      exact .finished ⟨shown_eq_ok_iff.2 ⟨⟨_, rfl⟩, ht⟩, hc⟩
    | unread hread' => cases hread.symm.trans hread'
    | broken hread' => cases hread.symm.trans hread'
    | missed hread' => cases hread.symm.trans hread'
    | found hread' => cases hread.symm.trans hread'
  | @stored spec record hread hknown hfound ht =>
    have hsame : (ResultCache.get c now spec.cacheKey).1 = .ok (some record) := by
      rcases S.found hc hknown with hsame | ⟨-, hnone, -⟩
      · rw [hsame, hfound]
      · cases hfound.symm.trans hnone
    cases hb with
    | unread hread' => cases hread.symm.trans hread'
    | rejected hread' => cases hread.symm.trans hread'
    | broken hread' hget =>
      cases hread.symm.trans hread'
      rw [hget] at hsame
      cases hsame
    | missed hread' hget =>
      cases hread.symm.trans hread'
      rw [hget] at hsame
      cases hsame
    | found hread' hget hshow =>
      cases hread.symm.trans hread'
      have hend := endsWith_showStored hub hc hknown hsame ht
      rw [hget] at hsame hend
      cases hsame
      rw [hshow] at hend
      obtain ⟨outcome, rfl⟩ := hend.ok_of_eq
      exact .finished hend
  | @searched spec hread hsearch =>
    cases hb with
    | unread hread' => cases hread.symm.trans hread'
    | rejected hread' => cases hread.symm.trans hread'
    | broken hread' hget =>
      cases hread.symm.trans hread'
      rcases S.found hc hsearch.known with hsame | ⟨-, -, hfresh⟩
      · rw [hget, hsearch.missing] at hsame
        cases hsame
      · rw [hget] at hfresh
        cases hfresh
    | missed hread' hget =>
      cases hread.symm.trans hread'
      have hafter := (S.get hc hsearch.known).1
      rw [hget] at hafter
      exact .searching hsearch hafter rfl
    | found hread' hget hshow =>
      cases hread.symm.trans hread'
      -- Another block under the same key was faster: its answer is this block's own.
      rcases S.found hc hsearch.known with hsame | ⟨hlasts, -, hfresh⟩
      · rw [hget, hsearch.missing] at hsame
        cases hsame
      · have ht := hsearch.text
        rw [fresh, if_pos hlasts, ← textOfRecord_entryOf now] at ht
        have hend := endsWith_showStored hub hc hsearch.known hfresh ht
        rw [hget] at hfresh hend
        cases hfresh
        rw [hshow] at hend
        obtain ⟨outcome, rfl⟩ := hend.ok_of_eq
        exact .finished hend

end Sharing

end QueryFence
