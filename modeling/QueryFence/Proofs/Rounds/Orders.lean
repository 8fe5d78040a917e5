import Mathlib.Data.List.Forall2
import QueryFence.Proofs.Rounds.Alone

/-!
Blocks of a document whose searches are answered in any order: the blocks begin in document order, and
at any time one of the searches asked for may be answered. Every way to go on comes to an end, and always
with what the blocks show alone.
-/

namespace QueryFence

open QueryFence.Cycle QueryFence.Traffic

/-- Every way to go on comes to an end, and this holds there. -/
inductive AlwaysEnds {α : Type} (step : α → α → Prop) (P : α → Prop) : α → Prop
  | intro {a : α} (next : ∀ b, step a b → AlwaysEnds step P b) (ends : (∀ b, ¬ step a b) → P a) :
    AlwaysEnds step P a

/-- What every step keeps, and an end of it makes true, is always reached, if the steps use something
up. -/
theorem AlwaysEnds.of_invariant {α : Type} {step : α → α → Prop} {I P : α → Prop} (size : α → Nat)
    (kept : ∀ a b, I a → step a b → I b ∧ size b < size a)
    (ends : ∀ a, I a → (∀ b, ¬ step a b) → P a) {a : α} (h : I a) : AlwaysEnds step P a := by
  -- on a bound of what is left, as a step may use up more than one
  obtain ⟨n, hn⟩ : ∃ n, size a < n := ⟨_, Nat.lt_succ_self _⟩
  induction n generalizing a with
  | zero => exact absurd hn (Nat.not_lt_zero _)
  | succ n ih =>
    constructor
    · intro b hstep
      obtain ⟨hb, hless⟩ := kept a b h hstep
      exact ih hb (Nat.lt_of_lt_of_le hless (Nat.le_of_lt_succ hn))
    · exact ends a h

theorem AlwaysEnds.imp {α : Type} {step : α → α → Prop} {P Q : α → Prop} (hPQ : ∀ a, P a → Q a)
    {a : α} (h : AlwaysEnds step P a) : AlwaysEnds step Q a := by
  induction h with
  | intro _ ends ih => exact .intro ih fun hend => hPQ _ (ends hend)

theorem forall₂_set {α β : Type} {R : α → β → Prop} {l : List α} {l' : List β}
    (h : List.Forall₂ R l l') {i : Nat} {a : α} {b : β} (hb : l'[i]? = some b) (hab : R a b) :
    List.Forall₂ R (l.set i a) l' := by
  induction h generalizing i with
  | nil => exact .nil
  | cons hfirst hrest ih =>
    cases i with
    | zero =>
      cases hb
      exact .cons hab hrest
    | succ i => exact .cons hfirst (ih hb)

theorem forall₂_getElem? {α β : Type} {R : α → β → Prop} {l : List α} {l' : List β}
    (h : List.Forall₂ R l l') {i : Nat} {a : α} (ha : l[i]? = some a) :
    ∃ b, l'[i]? = some b ∧ R a b := by
  induction h generalizing i with
  | nil => cases ha
  | cons hfirst hrest ih =>
    cases i with
    | zero =>
      cases ha
      exact ⟨_, rfl, hfirst⟩
    | succ i => exact ih ha

theorem Traffic.settle_errands {σ : Type} (t : Traffic σ) (index : Nat) (source : Text) (a : Answer)
    (r : Except Fault Outcome × Scene σ) :
    (t.settle index source a r).errands = t.errands.set index ⟨source, r.2.display, .ended r.1⟩ := rfl

/-- The text that a cycle has ended with, or its fault, once it has come to its end. -/
def Errand.shown? (e : Errand) : Option (Except Fault Text) :=
  match e.stage with
  | .searching _ => none
  | .ended result => some (result.map fun _ => e.display.output)

def Errand.isSearching (e : Errand) : Bool := e.shown?.isNone

/-- A document on its way: the blocks that have not begun, and the cycles of those that have. -/
structure Progress (σ : Type) where
  waiting : List Text
  traffic : Traffic σ

namespace Progress

variable {σ : Type}

def start (sources : List Text) (cache : σ) : Progress σ := ⟨sources, quiet cache⟩

/-- What each step uses up: a block that begins may still wait for its search. -/
def size (s : Progress σ) : Nat := 2 * s.waiting.length + s.traffic.errands.countP Errand.isSearching

variable [ResultCache σ]

/-- One step of a document: the next block begins, or a search is answered. -/
inductive Advances (hub : Hub) (now : Instant) (outcome : Text → Int → Except SearchFailure Json) :
    Progress σ → Progress σ → Prop
  | begin {source : Text} {waiting : List Text} {t : Traffic σ} :
    Advances hub now outcome ⟨source :: waiting, t⟩ ⟨waiting, t.step hub now (.render source)⟩
  | answer {waiting : List Text} {t : Traffic σ} {index : Nat} {source : Text} {display : Display}
      {p : Pending} (h : t.errands[index]? = some ⟨source, display, .searching p⟩) :
    Advances hub now outcome ⟨waiting, t⟩
      ⟨waiting, t.step hub now (.answer index (outcome p.spec.query p.limit))⟩

variable {hub : Hub} {now : Instant} {outcome : Text → Int → Except SearchFailure Json}
  {s s' : Progress σ}

theorem Advances.size_lt (h : Advances hub now outcome s s') : s'.size < s.size := by
  cases h with
  | @begin source waiting t =>
    obtain ⟨r, hr⟩ : ∃ r, r = (Cycle.start hub now source).run.run ⟨Display.blank, t.cache⟩ := ⟨_, rfl⟩
    obtain ⟨stage, he⟩ := launch_errands t source r
    have hone : [(⟨source, r.2.display, stage⟩ : Errand)].countP Errand.isSearching ≤ 1 :=
      List.countP_le_length
    simp only [size, Traffic.step, ← hr, he, List.countP_append, List.length_cons]
    omega
  | @answer waiting t index source display p he =>
    obtain ⟨hlt, hget⟩ := List.getElem?_eq_some_iff.1 he
    have hsearching : (t.errands[index]).isSearching = true := by
      rw [hget]
      rfl
    have hsome := List.countP_pos_iff.2 ⟨_, List.getElem_mem hlt, hsearching⟩
    have hended : ∀ d result, Errand.isSearching ⟨source, d, .ended result⟩ = false := fun _ _ => rfl
    simp only [size, Traffic.step, he, settle_errands, List.countP_set hlt, hsearching, hended,
      Bool.false_eq_true, if_false, if_true]
    omega

theorem ended_of_not_advances (h : ∀ s', ¬ Advances hub now outcome s s') :
    s.waiting = [] ∧ ∀ e ∈ s.traffic.errands, ∃ shown, e.shown? = some shown := by
  obtain ⟨waiting, t⟩ := s
  constructor
  · cases waiting with
    | nil => rfl
    | cons source waiting => exact absurd .begin (h _)
  · intro e he
    obtain ⟨index, hindex⟩ := List.getElem?_of_mem he
    obtain ⟨source, display, stage⟩ := e
    cases stage with
    | searching p => exact absurd (.answer hindex) (h _)
    | ended result => exact ⟨_, rfl⟩

end Progress

namespace Sharing

variable {σ : Type} [ResultCache σ] {hub : Hub} {now : Instant} {known : Spec → Prop}
  {outcome : Text → Int → Except SearchFailure Json} {first : σ}

/-- A cycle that has shown a text, or waits for the answer for which it will show it. -/
inductive ErrandNears (S : Sharing σ now known (answerTo hub outcome) first) :
    Errand → Text → Prop
  | searching {source : Text} {display : Display} {spec : Spec} {t : Text}
      (h : S.Searches hub spec t) (hopen : display.closed = false) :
    ErrandNears S ⟨source, display, .searching ⟨spec, effectiveLimit hub spec⟩⟩ t
  | ended {e : Errand} {t : Text} (h : e.shown? = some (.ok t)) : ErrandNears S e t

/-- The texts of a document on its way: of the blocks that have begun, and of those that have not. -/
structure ProgressNears (S : Sharing σ now known (answerTo hub outcome) first) (texts : List Text)
    (s : Progress σ) : Prop where
  reached : S.Reached s.traffic.cache
  blocks : ∃ begun waiting, texts = begun ++ waiting ∧
    List.Forall₂ S.ErrandNears s.traffic.errands begun ∧
    List.Forall₂ (S.Shows hub) s.waiting waiting

variable {S : Sharing σ now known (answerTo hub outcome) first} {source t : Text}
  {texts : List Text} {traffic : Traffic σ}

theorem EndsWith.errandNears {result : Except Fault Outcome} {scene : Scene σ}
    (h : S.EndsWith (result, scene) t) (source : Text) :
    S.ErrandNears ⟨source, scene.display, .ended result⟩ t := .ended (congrArg some h.shown)

theorem Shows.launch (h : S.Shows hub source t) (hc : S.Reached traffic.cache) :
    S.Reached (traffic.step hub now (.render source)).cache ∧
      ∃ e, (traffic.step hub now (.render source)).errands = traffic.errands ++ [e] ∧
        S.ErrandNears e t := by
  have hstarts := h.starts hc
  rw [Traffic.step]
  obtain ⟨r, hr⟩ : ∃ r, r = (Cycle.start hub now source).run.run ⟨Display.blank, traffic.cache⟩ :=
    ⟨_, rfl⟩
  rw [← hr] at hstarts ⊢
  cases hstarts with
  | finished hend => exact ⟨hend.reached, _, rfl, hend.errandNears source⟩
  | searching hsearch hafter hopen => exact ⟨hafter, _, rfl, .searching hsearch hopen⟩

theorem Searches.settle {spec : Spec} (h : S.Searches hub spec t) {display : Display}
    (hopen : display.closed = false) (hc : S.Reached traffic.cache) {index : Nat}
    (hindex : traffic.errands[index]? =
      some ⟨source, display, .searching ⟨spec, effectiveLimit hub spec⟩⟩) :
    S.Reached (traffic.step hub now (.answer index (answerTo hub outcome spec))).cache ∧
      ∃ e, (traffic.step hub now (.answer index (answerTo hub outcome spec))).errands =
        traffic.errands.set index e ∧ S.ErrandNears e t := by
  have hend := h.resume (s := ⟨display, traffic.cache⟩) hc hopen (effectiveLimit hub spec)
  simp only [Traffic.step, hindex, Traffic.settle]
  exact ⟨hend.reached, _, rfl, hend.errandNears source⟩

theorem ProgressNears.advances {s s' : Progress σ} (h : S.ProgressNears texts s)
    (hstep : Progress.Advances hub now outcome s s') : S.ProgressNears texts s' := by
  obtain ⟨hc, begun, waiting, rfl, hbegun, hwaiting⟩ := h
  cases hstep with
  | begin =>
    cases hwaiting with
    | @cons _ t _ waiting hfirst hrest =>
      obtain ⟨hafter, e, he, hnear⟩ := hfirst.launch hc
      refine ⟨hafter, begun ++ [t], waiting, by rw [List.append_assoc, List.singleton_append], ?_,
        hrest⟩
      rw [he]
      exact List.rel_append hbegun (.cons hnear .nil)
  | @answer waiting' t index source display p hindex =>
    obtain ⟨shown, hshown, hnear⟩ := forall₂_getElem? hbegun hindex
    cases hnear with
    | ended hended => cases hended
    | searching hsearch hopen =>
      obtain ⟨hafter, e, he, hnew⟩ := hsearch.settle hopen hc hindex
      have hset := forall₂_set hbegun hshown hnew
      rw [← he] at hset
      exact ⟨hafter, begun, waiting, rfl, hset, hwaiting⟩

theorem map_shown?_of_ended {errands : List Errand} (h : List.Forall₂ S.ErrandNears errands texts)
    (hended : ∀ e ∈ errands, ∃ shown, e.shown? = some shown) :
    errands.map Errand.shown? = texts.map fun t => some (.ok t) := by
  induction h with
  | nil => rfl
  | cons hnear _ ih =>
    rw [List.forall_mem_cons] at hended
    obtain ⟨⟨shown, hshown⟩, hrest⟩ := hended
    rw [List.map_cons, List.map_cons, ih hrest]
    cases hnear with
    | ended htext => rw [htext]
    | searching => cases hshown

/-- Whatever the order of the answers, the cycles of a document end with the texts that its blocks show
alone. -/
theorem alwaysEnds (S : Sharing σ now known (answerTo hub outcome) first) {sources : List Text}
    (h : List.Forall₂ (S.Shows hub) sources texts) :
    AlwaysEnds (Progress.Advances hub now outcome)
      (fun s => s.traffic.errands.map Errand.shown? = texts.map fun t => some (.ok t))
      (Progress.start sources first) := by
  have hstart : S.ProgressNears texts (Progress.start sources first) :=
    ⟨S.initial, [], texts, rfl, .nil, h⟩
  apply AlwaysEnds.of_invariant Progress.size ?_ ?_ hstart
  · intro s s' hs hstep
    exact ⟨hs.advances hstep, hstep.size_lt⟩
  · intro s hs hend
    obtain ⟨-, begun, waiting, rfl, hbegun, hwaiting⟩ := hs
    obtain ⟨hnone, hended⟩ := Progress.ended_of_not_advances hend
    rw [hnone] at hwaiting
    cases hwaiting
    rw [List.append_nil]
    exact map_shown?_of_ended hbegun hended

end Sharing

end QueryFence
