import QueryFence.Proofs.Cache.Alike

/-!
Steps of a cycle whose display is closed. What they show is lost, and everything else goes as on an open
display, but for the look-up that the footer of a table makes.
-/

namespace QueryFence.Cycle

variable {σ α β : Type} {Sound : σ → Prop} {Leaves : α → σ → σ → Prop}

/-- What a step does on a closed display, by what it does on any other one. The caches that it leaves are
related, that of the closed display first. -/
structure GoesBlind (Sound : σ → Prop) (Leaves : α → σ → σ → Prop) (m : CycleM σ α) : Prop where
  sound : ∀ {s : Scene σ}, Sound s.cache → Sound (m.run.run s).2.cache
  frozen : ∀ {s : Scene σ}, s.display.closed = true →
    (m.run.run s).2.display.closed = true ∧ (m.run.run s).2.display.output = s.display.output
  follows : ∀ {s s' : Scene σ} {d : Display} {a : α}, d.closed = true → m.run.run s = (.ok a, s') →
    ∃ blind, m.run.run ⟨d, s.cache⟩ = (.ok a, blind) ∧ Leaves a blind.cache s'.cache

/-- The cache is left the same. -/
def Same (_ : α) (blind seen : σ) : Prop := blind = seen

theorem goesBlind_result (r : Except Fault α) :
    GoesBlind Sound Same (ExceptT.mk (pure r) : CycleM σ α) where
  sound hs := hs
  frozen hs := ⟨hs, rfl⟩
  follows _ hrun := by
    cases hrun
    exact ⟨_, rfl, rfl⟩

theorem goesBlind_throw (fault : Fault) : GoesBlind Sound Leaves (throw fault : CycleM σ α) where
  sound hs := hs
  frozen hs := ⟨hs, rfl⟩
  follows _ hrun := nomatch hrun

theorem goesBlind_onCache {f : σ → Except Fault α × σ} (hf : ∀ c, Sound c → Sound (f c).2) :
    GoesBlind Sound Same (onCache f) where
  sound hs := hf _ hs
  frozen hs := ⟨hs, rfl⟩
  follows := by
    intro s s' d a _ hrun
    rw [run_onCache] at hrun
    obtain ⟨hok, rfl⟩ := Prod.mk.inj hrun
    exact ⟨⟨d, (f s.cache).2⟩, by rw [run_onCache, hok], rfl⟩

theorem goesBlind_showText (call : Showing) (t : Text) :
    GoesBlind Sound Same (showText call t : CycleM σ Unit) where
  sound hs := hs
  frozen hs := ⟨hs, if_pos hs⟩
  follows _ hrun := by
    cases hrun
    exact ⟨_, rfl, rfl⟩

/-- Only the last step may leave the caches apart. -/
theorem GoesBlind.bind {Leaves : β → σ → σ → Prop} {m : CycleM σ α} {next : α → CycleM σ β}
    (h : GoesBlind Sound Same m) (hnext : ∀ a, GoesBlind Sound Leaves (next a)) :
    GoesBlind Sound Leaves (m >>= next) where
  sound := by
    intro s hs
    have hafter := h.sound hs
    rw [run_bind]
    rcases hrun : m.run.run s with ⟨fault | a, s'⟩
    · rw [hrun] at hafter
      exact hafter
    · rw [hrun] at hafter
      exact (hnext a).sound hafter
  frozen := by
    intro s hs
    have hafter := h.frozen hs
    rw [run_bind]
    rcases hrun : m.run.run s with ⟨fault | a, s'⟩
    · rw [hrun] at hafter
      exact hafter
    · rw [hrun] at hafter
      have hrest := (hnext a).frozen hafter.1
      exact ⟨hrest.1, hrest.2.trans hafter.2⟩
  follows := by
    intro s s' d b hd hrun
    rw [run_bind] at hrun
    rcases hfirst : m.run.run s with ⟨fault | a, middle⟩
    · rw [hfirst] at hrun
      cases hrun
    · rw [hfirst] at hrun
      obtain ⟨blind, hblind, hsame⟩ := h.follows hd hfirst
      have hclosed := (h.frozen (s := ⟨d, s.cache⟩) hd).1
      rw [hblind] at hclosed
      obtain ⟨after, hafter, hleaves⟩ := (hnext a).follows hclosed hrun
      rw [← show blind.cache = middle.cache from hsame] at hafter
      refine ⟨after, ?_, hleaves⟩
      rw [run_bind, hblind]
      exact hafter

/-- A step whose result is only handed on. -/
theorem GoesBlind.map {Leaves' : β → σ → σ → Prop} {m : CycleM σ α} {f : α → β}
    (h : GoesBlind Sound Leaves m)
    (hle : ∀ a blind seen, Leaves a blind seen → Leaves' (f a) blind seen) :
    GoesBlind Sound Leaves' (m >>= fun a => pure (f a)) where
  sound := by
    intro s hs
    rw [run_bind_pure_snd]
    exact h.sound hs
  frozen := by
    intro s hs
    rw [run_bind_pure_snd]
    exact h.frozen hs
  follows := by
    intro s s' d b hd hrun
    rw [run_bind] at hrun
    rcases hfirst : m.run.run s with ⟨fault | a, middle⟩
    · rw [hfirst] at hrun
      cases hrun
    · rw [hfirst] at hrun
      cases hrun
      obtain ⟨blind, hblind, hleaves⟩ := h.follows hd hfirst
      refine ⟨blind, ?_, hle _ _ _ hleaves⟩
      rw [run_bind, hblind]
      rfl

theorem goesBlind_showError (hub : Hub) (message : Json) (spec : Option Spec) :
    GoesBlind Sound Same (showError hub message spec : CycleM σ Unit) :=
  goesBlind_showText _ _

variable [ResultCache σ] {hub : Hub} {now : Instant}

/-- A cache after at most one look-up, by the cache before it. -/
def Glanced (now : Instant) (blind seen : σ) : Prop := ∃ key, IsLookedUp now key blind seen

theorem glanced_of_eq {now : Instant} {blind seen : σ} (h : blind = seen) : Glanced now blind seen :=
  ⟨[], .inl h.symm⟩

/-- A closed display does not look at results, and so makes no look-up for their footer. -/
theorem goesBlind_showResults (hs : KeptByCalls Sound) (hub : Hub) (now : Instant) (spec : Spec)
    (results : Json) :
    GoesBlind Sound (fun _ => Glanced now) (showResults hub now spec results : CycleM σ Unit) where
  sound := by
    intro s hsound
    rcases isLookedUp_showResults hub now spec results s with hsame | hget
    · rw [hsame]
      exact hsound
    · rw [hget]
      exact hs.get now spec.cacheKey hsound
  frozen := by
    intro s hclosed
    simp only [showResults, run_bind, run_get, hclosed, if_true, run_showText]
    exact ⟨hclosed, if_pos hclosed⟩
  follows := by
    intro s s' d a hd hrun
    have hlooked := isLookedUp_showResults hub now spec results s
    rw [hrun] at hlooked
    refine ⟨⟨d.put .results [], s.cache⟩, ?_, ⟨spec.cacheKey, hlooked⟩⟩
    simp only [showResults, run_bind, run_get, hd, if_true, run_showText]

theorem goesBlind_showStored (hs : KeptByCalls Sound) (hub : Hub) (now : Instant) (spec : Spec)
    (record : Json) :
    GoesBlind Sound (fun _ => Glanced now)
      (showStored hub now spec record : CycleM σ Outcome) := by
  apply (goesBlind_result _).bind
  intro isError
  apply (goesBlind_result _).bind
  intro data
  split
  · exact (goesBlind_showResults hs hub now spec data).map fun _ _ _ h => h
  · apply (goesBlind_showError hub data (some spec)).map
    intro _ _ _ h
    exact glanced_of_eq h

/-- Where a search is still to come, the caches are the same. -/
def LeftAtStart (now : Instant) : Begun → σ → σ → Prop
  | .finished _ => Glanced now
  | .searching _ => Eq

theorem goesBlind_start (hs : KeptByCalls Sound) (hub : Hub) (now : Instant) (source : Text) :
    GoesBlind Sound (LeftAtStart now) (start hub now source : CycleM σ Begun) := by
  rw [start]
  cases Spec.read hub.settings source with
  | error failure =>
    cases failure with
    | rejected error =>
      apply (goesBlind_showError hub _ none).map
      intro _ _ _ h
      exact glanced_of_eq h
    | fault fault => exact goesBlind_throw fault
  | ok spec =>
    apply (goesBlind_onCache fun c hc => hs.get now spec.cacheKey hc).bind
    intro found
    cases found with
    | some record =>
      exact (goesBlind_showStored hs hub now spec record).map fun _ _ _ h => h
    | none =>
      exact (goesBlind_showText .loading loadingText).map fun _ _ _ h => h

theorem goesBlind_startOver (hs : KeptByCalls Sound) (hub : Hub) (now : Instant) (spec : Spec) :
    GoesBlind Sound (LeftAtStart now) (startOver hub now spec : CycleM σ Begun) := by
  apply (goesBlind_onCache fun c hc => hs.delete spec.cacheKey hc).bind
  intro _
  exact goesBlind_start hs hub now _

theorem goesBlind_resume (hs : KeptByCalls Sound) (hub : Hub) (now : Instant) (p : Pending)
    (answer : Except SearchFailure Json) :
    GoesBlind Sound (fun _ => Glanced now) (resume hub now p answer : CycleM σ Outcome) := by
  cases answer with
  | error failure =>
    apply (goesBlind_onCache fun c hc => hs.add now p.spec.cacheKey _ true hc).bind
    intro record
    apply (goesBlind_showError hub _ (some p.spec)).map
    intro _ _ _ h
    exact glanced_of_eq h
  | ok results =>
    apply (goesBlind_result _).bind
    intro total
    apply (goesBlind_onCache fun c hc => hs.add now p.spec.cacheKey _ false hc).bind
    intro record
    apply (goesBlind_result _).bind
    intro data
    exact (goesBlind_showResults hs hub now p.spec data).map fun _ _ _ h => h

end QueryFence.Cycle
