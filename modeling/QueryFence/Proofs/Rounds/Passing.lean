import QueryFence.Proofs.Rounds.Alone

/-!
A block rendered by itself while time passes: its cycle starts at one instant, and goes on at another when
its search is answered.
-/

namespace QueryFence

open QueryFence.Cycle

namespace BlockRun

variable {σ ε : Type} [ResultCache σ] {service : Service ε} {hub : Hub} {now later : Instant}
  {source : Text} {cache : σ} {world : ε}

/-- A block rendered by itself whose search is answered at a later instant. -/
def between (service : Service ε) (hub : Hub) (now later : Instant) (source : Text) (cache : σ)
    (world : ε) : BlockRun σ ε :=
  match (start hub now source).run.run ⟨Display.blank, cache⟩ with
  | (.error fault, scene) => ⟨.error fault, scene, world⟩
  | (.ok (.finished outcome), scene) => ⟨.ok outcome, scene, world⟩
  | (.ok (.searching pending), scene) =>
    let (outcome, world) :=
      (service.search pending.spec.query pending.limit).run service.answer world
    let (result, scene) := (resume hub later pending outcome).run.run scene
    ⟨result, scene, world⟩

/-- Where no time passes, it is the run of the block at that instant. -/
theorem between_self : between service hub now now source cache world =
    alone service hub now source cache world := by
  rw [between, alone, follow, startBlock_false]
  rcases (start hub now source).run.run ⟨Display.blank, cache⟩ with ⟨fault | ⟨outcome | p⟩, s⟩
  · rfl
  · rfl
  · rfl

/-- A block that waits for nothing. -/
theorem between_of_started {r : Except Fault Outcome} {s : Scene σ}
    (h : (start hub now source).run.run ⟨Display.blank, cache⟩ = (r.map .finished, s)) :
    between service hub now later source cache world = ⟨r, s, world⟩ := by
  rw [between, h]
  cases r <;> rfl

theorem between_of_searching {p : Pending} {s : Scene σ} {r : Except SearchFailure Json × ε}
    (h : (start hub now source).run.run ⟨Display.blank, cache⟩ = (.ok (.searching p), s))
    (hr : (service.search p.spec.query p.limit).run service.answer world = r) :
    between service hub now later source cache world =
      ⟨((resume hub later p r.1).run.run s).1, ((resume hub later p r.1).run.run s).2, r.2⟩ := by
  rw [between, h]
  dsimp only
  rw [hr]
  rfl

end BlockRun

end QueryFence
