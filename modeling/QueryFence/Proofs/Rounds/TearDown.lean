import QueryFence.Proofs.Cache.FolderAlike
import QueryFence.Proofs.Rounds.Blind
import QueryFence.Proofs.Rounds.Logging

/-!
Tearing down the display of a block, before its cycle or while its search is pending. The output stays as
it was, and whatever does not look at the display goes on as if it had stayed open.
-/

namespace QueryFence

open QueryFence.Cycle

/-- A cache with a clock of its own, which every look-up and every deposit reads once, whatever instant
the caller names. -/
structure Ticking (σ : Type) where
  cache : σ
  clock : Nat → Instant

def NeverGoesBack (clock : Nat → Instant) : Prop := ∀ n, (clock n).micros ≤ (clock (n + 1)).micros

section Clocks

variable {σ : Type} [ResultCache σ]

instance : ResultCache (Ticking σ) where
  get c _ key :=
    ((ResultCache.get c.cache (c.clock 0) key).1,
      ⟨(ResultCache.get c.cache (c.clock 0) key).2, fun n => c.clock (n + 1)⟩)
  add c _ key data isError :=
    ((ResultCache.add c.cache (c.clock 0) key data isError).1,
      ⟨(ResultCache.add c.cache (c.clock 0) key data isError).2, fun n => c.clock (n + 1)⟩)
  delete c key :=
    ((ResultCache.delete c.cache key).1, ⟨(ResultCache.delete c.cache key).2, c.clock⟩)

/-- What a cache keeps, it keeps beside a clock that does not go back. -/
def Ticking.IsSound (Sound : σ → Prop) (c : Ticking σ) : Prop := Sound c.cache ∧ NeverGoesBack c.clock

theorem KeptByCalls.ticking {Sound : σ → Prop} (h : KeptByCalls Sound) :
    KeptByCalls (Ticking.IsSound Sound) where
  get _ key hc := ⟨h.get _ key hc.1, fun n => hc.2 (n + 1)⟩
  add _ key data isError hc := ⟨h.add _ key data isError hc.1, fun n => hc.2 (n + 1)⟩
  delete key hc := ⟨h.delete key hc.1, hc.2⟩

/-- Nothing need be known of a cache where only displays and results are compared. -/
theorem keptByCalls_true : KeptByCalls fun _ : σ => True :=
  ⟨fun _ _ _ => trivial, fun _ _ _ _ _ => trivial, fun _ _ => trivial⟩

/-- A look-up more by the clock of a cache is not noticed later on. -/
theorem GoesUnnoticed.answersAlike_of_glanced [CacheUpkeep σ] {Sound : σ → Prop}
    (h : GoesUnnoticed Sound) {now : Instant} {blind seen : Ticking σ} (hb : blind.IsSound Sound)
    (hglance : Glanced now blind seen) :
    AnswersAlike (seen.clock 0) seen.cache blind.cache := by
  obtain ⟨key, rfl | rfl⟩ := hglance
  · exact AnswersAlike.refl _ _
  · exact (h.get_alike (blind.clock 0) key hb.1).of_le (hb.2 0)

end Clocks

/-- How a cycle begins: with the text of a block, or over again with a block that was read. -/
inductive Beginning
  | render (source : Text)
  | refresh (spec : Spec)

/-- When a display is closed, if it is. -/
inductive Closing
  | never
  | before
  | pending

namespace Closing

def atStart : Closing → Display → Display
  | .before, display => display.close
  | .never, display | .pending, display => display

def atAnswer : Closing → Display → Display
  | .pending, display => display.close
  | .never, display | .before, display => display

end Closing

section Runs

variable {σ ε : Type} [ResultCache σ] {service : Service ε} {hub : Hub} {now : Instant}
  {beginning : Beginning} {closing : Closing} {scene : Scene σ} {world : ε} {Sound : σ → Prop}

def Beginning.run (beginning : Beginning) (hub : Hub) (now : Instant) : CycleM σ Begun :=
  match beginning with
  | .render source => start hub now source
  | .refresh spec => startOver hub now spec

theorem Beginning.goesBlind_run (hs : KeptByCalls Sound) (beginning : Beginning) (hub : Hub)
    (now : Instant) : GoesBlind Sound (LeftAtStart now) (beginning.run hub now : CycleM σ Begun) := by
  cases beginning with
  | render source => exact goesBlind_start hs hub now source
  | refresh spec => exact goesBlind_startOver hs hub now spec

namespace BlockRun

/-- The part of a run behind its beginning. -/
def goOn (service : Service ε) (hub : Hub) (now : Instant) (closing : Closing) (world : ε) :
    Except Fault Begun × Scene σ → BlockRun σ ε
  | (.error fault, scene) => ⟨.error fault, scene, world⟩
  | (.ok (.finished outcome), scene) => ⟨.ok outcome, scene, world⟩
  | (.ok (.searching pending), scene) =>
    let answered := (service.search pending.spec.query pending.limit).run service.answer world
    let resumed := (resume hub now pending answered.1).run.run
      ⟨closing.atAnswer scene.display, scene.cache⟩
    ⟨resumed.1, resumed.2, answered.2⟩

/-- A cycle run to its end, on a display that is closed at some time or never. -/
def closedAt (service : Service ε) (hub : Hub) (now : Instant) (beginning : Beginning)
    (closing : Closing) (scene : Scene σ) (world : ε) : BlockRun σ ε :=
  goOn service hub now closing world
    ((beginning.run hub now).run.run ⟨closing.atStart scene.display, scene.cache⟩)

/-- On a new display this is how a block is followed through its search. -/
theorem closedAt_blank (service : Service ε) (hub : Hub) (now : Instant) (beginning : Beginning)
    (closing : Bool) (cache : σ) (world : ε) :
    closedAt service hub now beginning (if closing then .pending else .never) ⟨Display.blank, cache⟩
        world =
      follow service hub now closing (beginning.run hub now) cache world := by
  have hstart : (if closing then Closing.pending else .never).atStart Display.blank = Display.blank := by
    cases closing <;> rfl
  rw [closedAt, follow, hstart]
  rcases (beginning.run hub now).run.run ⟨Display.blank, cache⟩ with ⟨fault | ⟨outcome | p⟩, s⟩
  · rfl
  · rfl
  · cases closing <;> rfl

/-- The output stays what it was when the display was closed. -/
def IsFrozen (hub : Hub) (now : Instant) (beginning : Beginning) (scene : Scene σ) (run : BlockRun σ ε) :
    Closing → Prop
  | .never => True
  | .before => run.scene.display.output = scene.display.output
  | .pending => ∀ p s, (beginning.run hub now).run.run scene = (.ok (.searching p), s) →
    run.scene.display.output = s.display.output

theorem isFrozen_closedAt (service : Service ε) (hub : Hub) (now : Instant) (beginning : Beginning)
    (closing : Closing) (scene : Scene σ) (world : ε) :
    IsFrozen hub now beginning scene (closedAt service hub now beginning closing scene world)
      closing := by
  cases closing with
  | never => trivial
  | before =>
    have hbegun := (beginning.goesBlind_run keptByCalls_true hub now).frozen
      (s := ⟨scene.display.close, scene.cache⟩) rfl
    rw [IsFrozen, closedAt, Closing.atStart]
    rcases hrun : (beginning.run hub now).run.run ⟨scene.display.close, scene.cache⟩ with
      ⟨fault | ⟨outcome | p⟩, s⟩
    · rw [hrun] at hbegun
      exact hbegun.2
    · rw [hrun] at hbegun
      exact hbegun.2
    · rw [hrun] at hbegun
      have hresumed := (goesBlind_resume keptByCalls_true hub now p
        ((service.search p.spec.query p.limit).run service.answer world).1).frozen (s := s) hbegun.1
      exact hresumed.2.trans hbegun.2
  | pending =>
    intro p s hrun
    rw [closedAt, Closing.atStart, hrun]
    have hresumed := (goesBlind_resume keptByCalls_true hub now p
      ((service.search p.spec.query p.limit).run service.answer world).1).frozen
      (s := ⟨s.display.close, s.cache⟩) rfl
    exact hresumed.2

theorem closedAt_sound (hs : KeptByCalls Sound) (service : Service ε) (hub : Hub) (now : Instant)
    (beginning : Beginning) (closing : Closing) (world : ε) {s : Scene σ} (hsound : Sound s.cache) :
    Sound (closedAt service hub now beginning closing s world).scene.cache := by
  have hbegun := (beginning.goesBlind_run hs hub now).sound
    (s := ⟨closing.atStart s.display, s.cache⟩) hsound
  rw [closedAt]
  rcases hrun : (beginning.run hub now).run.run ⟨closing.atStart s.display, s.cache⟩ with
    ⟨fault | ⟨outcome | p⟩, begun⟩
  · rw [hrun] at hbegun
    exact hbegun
  · rw [hrun] at hbegun
    exact hbegun
  · rw [hrun] at hbegun
    exact (goesBlind_resume hs hub now p _).sound (s := ⟨closing.atAnswer begun.display, begun.cache⟩)
      hbegun

/-- A run that ends as another one does, but for its display, and for a look-up that only the other one
makes. -/
structure EndsAs (now : Instant) (run other : BlockRun σ ε) : Prop where
  result : run.result = other.result
  world : run.world = other.world
  cache : Glanced now run.scene.cache other.scene.cache

theorem EndsAs.refl (now : Instant) (run : BlockRun σ ε) : EndsAs now run run :=
  ⟨rfl, rfl, glanced_of_eq rfl⟩

theorem goOn_endsAs {begun : Begun} {blind seen : Scene σ} {outcome : Outcome}
    (hclosed : (closing.atAnswer blind.display).closed = true)
    (hleft : LeftAtStart now begun blind.cache seen.cache)
    (hends : (goOn service hub now .never world (.ok begun, seen)).result = .ok outcome) :
    EndsAs now (goOn service hub now closing world (.ok begun, blind))
      (goOn service hub now .never world (.ok begun, seen)) := by
  cases begun with
  | finished outcome => exact ⟨rfl, rfl, hleft⟩
  | searching p =>
    obtain ⟨display, cache⟩ := blind
    obtain rfl : cache = seen.cache := hleft
    rcases hresume : (resume hub now p
      ((service.search p.spec.query p.limit).run service.answer world).1).run.run seen with ⟨r, s⟩
    have hopened : goOn service hub now .never world (.ok (.searching p), seen) =
        ⟨r, s, ((service.search p.spec.query p.limit).run service.answer world).2⟩ := by
      rw [goOn, Closing.atAnswer, hresume]
    rw [hopened] at hends
    obtain rfl : r = .ok outcome := hends
    obtain ⟨after, hafter, hglance⟩ :=
      (goesBlind_resume keptByCalls_true hub now p _).follows hclosed hresume
    rw [hopened, goOn, hafter]
    exact ⟨rfl, rfl, hglance⟩

/-- A run that ends well on an open display ends so on one that is closed at some time. -/
theorem closedAt_endsAs {outcome : Outcome}
    (hends : (closedAt service hub now beginning .never scene world).result = .ok outcome) :
    EndsAs now (closedAt service hub now beginning closing scene world)
      (closedAt service hub now beginning .never scene world) := by
  rcases hrun : (beginning.run hub now).run.run scene with ⟨fault | begun, seen⟩
  · rw [closedAt, Closing.atStart, hrun] at hends
    cases hends
  have hopened : closedAt service hub now beginning .never scene world =
      goOn service hub now .never world (.ok begun, seen) := by
    rw [closedAt, Closing.atStart, hrun]
  rw [hopened] at hends ⊢
  cases closing with
  | never =>
    rw [hopened]
    exact EndsAs.refl now _
  | before =>
    have hbegin := beginning.goesBlind_run keptByCalls_true hub now (σ := σ)
    have hclosed : scene.display.close.closed = true := rfl
    obtain ⟨blind, hblind, hleft⟩ := hbegin.follows hclosed hrun
    have hstill := (hbegin.frozen (s := ⟨scene.display.close, scene.cache⟩) hclosed).1
    rw [hblind] at hstill
    rw [closedAt, Closing.atStart, hblind]
    exact goOn_endsAs hstill hleft hends
  | pending =>
    have hleft : LeftAtStart now begun seen.cache seen.cache := by
      cases begun with
      | finished _ => exact glanced_of_eq rfl
      | searching _ => exact rfl
    rw [closedAt, Closing.atStart, hrun]
    exact goOn_endsAs rfl hleft hends

/-- Closing a display keeps its output as it is then, however the run ends. If the run ends well on a
display that stays open, it has the same outcome on the closed one and leaves the world the same; and a
cache that was sound gives the same answers from then on. -/
structure AffectsOnlyOutput [CacheUpkeep σ] (hub : Hub) (now : Instant) (beginning : Beginning)
    (closing : Closing) (scene : Scene (Ticking σ)) (IsSound : Prop) (torn opened : BlockRun (Ticking σ) ε) :
    Prop where
  frozen : torn.IsFrozen hub now beginning scene closing
  result : ∀ outcome, opened.result = .ok outcome → torn.result = .ok outcome
  world : ∀ outcome, opened.result = .ok outcome → torn.world = opened.world
  answers : IsSound → ∀ outcome, opened.result = .ok outcome →
    AnswersAlike (opened.scene.cache.clock 0) opened.scene.cache.cache torn.scene.cache.cache

theorem affectsOnlyOutput_closedAt [CacheUpkeep σ] (hs : GoesUnnoticed Sound) (service : Service ε)
    (hub : Hub) (now : Instant) (beginning : Beginning) (closing : Closing) (display : Display)
    {clock : Nat → Instant} (hclock : NeverGoesBack clock) (cache : σ) (world : ε) :
    AffectsOnlyOutput hub now beginning closing ⟨display, cache, clock⟩ (Sound cache)
      (closedAt service hub now beginning closing ⟨display, cache, clock⟩ world)
      (closedAt service hub now beginning .never ⟨display, cache, clock⟩ world) where
  frozen := isFrozen_closedAt service hub now beginning closing _ world
  result outcome hends := (closedAt_endsAs hends).result.trans hends
  world outcome hends := (closedAt_endsAs hends).world
  answers hsound outcome hends := by
    have hstart : Ticking.IsSound Sound ⟨cache, clock⟩ := ⟨hsound, hclock⟩
    have htorn := closedAt_sound hs.toKeptByCalls.ticking service hub now beginning closing world
      (s := ⟨display, ⟨cache, clock⟩⟩) hstart
    exact hs.answersAlike_of_glanced htorn (closedAt_endsAs hends).cache

end BlockRun

end Runs

namespace BlockRun

end BlockRun

end QueryFence
