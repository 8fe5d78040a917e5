import QueryFence.Cycle
import QueryFence.Fence
import QueryFence.Service

/-!
Rendering the blocks of a document side by side. All cycles start in document order, and each runs
until it waits; then they go on in rounds, again in document order.
-/

namespace QueryFence

/-- The cycle of one block among others. -/
inductive Job {ε : Type} (service : Service ε)
  | ready (source : Text)
  | searching (display : Display) (pending : Pending)
      (search : Plan service.Ask service.Reply (Except SearchFailure Json))
  | finished (result : Except Fault Text)

namespace Job

variable {ε σ : Type} [ResultCache σ] {service : Service ε}

/-- How a step of a cycle leaves its job. -/
def ending (result : Except Fault Outcome) (scene : Scene σ) : Job service × σ :=
  match result with
  | .ok _ => (.finished (.ok scene.display.output), scene.cache)
  | .error fault => (.finished (.error fault), scene.cache)

/-- Goes on with a search until it waits, or to the end of its cycle. -/
def drive (hub : Hub) (now : Instant) (display : Display) (pending : Pending)
    (search : Plan service.Ask service.Reply (Except SearchFailure Json)) (cache : σ) (world : ε) :
    Job service × σ × ε :=
  match search.advance service.answer service.waits world with
  | (.done outcome, false, world) =>
    let (result, scene) := (Cycle.resume hub now pending outcome).run.run ⟨display, cache⟩
    let (job, cache) := ending result scene
    (job, cache, world)
  | (search, _, world) => (.searching display pending search, cache, world)

/-- One turn of a job. -/
def turn (hub : Hub) (now : Instant) (refresh : Bool) (cache : σ) (world : ε) :
    Job service → Job service × σ × ε
  | .ready source =>
    match (Cycle.startBlock hub now refresh source).run.run ⟨Display.blank, cache⟩ with
    | (.error fault, scene) => (.finished (.error fault), scene.cache, world)
    | (.ok (.finished _), scene) => (.finished (.ok scene.display.output), scene.cache, world)
    | (.ok (.searching pending), scene) =>
      drive hub now scene.display pending (service.search pending.spec.query pending.limit)
        scene.cache world
  | .searching display pending search => drive hub now display pending search cache world
  | .finished result => (.finished result, cache, world)

def isFinished : Job service → Bool
  | .finished _ => true
  | _ => false

/-- The fault that a job has ended in. -/
def fault? : Job service → Option Fault
  | .finished (.error fault) => some fault
  | _ => none

/-- The output of a job that has ended well. -/
def output : Job service → Text
  | .finished (.ok t) => t
  | _ => []

end Job

/-- Jobs on the way, with all they share and the first fault that one of them ended in. -/
structure Crew {ε : Type} (service : Service ε) (σ : Type) where
  jobs : List (Job service)
  cache : σ
  world : ε
  fault : Option Fault

namespace Crew

variable {ε σ : Type} [ResultCache σ] {service : Service ε}

/-- A turn for each of some jobs. -/
def turns (hub : Hub) (now : Instant) (refresh : Bool) :
    List (Job service) → σ → ε → Option Fault → Crew service σ
  | [], cache, world, fault => ⟨[], cache, world, fault⟩
  | job :: rest, cache, world, fault =>
    let (job, cache, world) := job.turn hub now refresh cache world
    let crew := turns hub now refresh rest cache world (fault.or job.fault?)
    { crew with jobs := job :: crew.jobs }

/-- The rounds that the other jobs still get after one has ended in a fault. -/
def grace : Nat := 3

/-- Rounds of turns until every job has ended, no more of them than the fuel allows, nor more than so
many behind a fault; jobs that have not ended by then are dropped. -/
def rounds (hub : Hub) (now : Instant) (refresh : Bool) :
    Nat → Nat → Crew service σ → Crew service σ
  | 0, _, crew => crew
  | _, 0, crew => crew
  | fuel + 1, left + 1, crew =>
    if crew.jobs.all (·.isFinished) then crew
    else rounds hub now refresh fuel (if crew.fault.isSome then left else left + 1)
      (turns hub now refresh crew.jobs crew.cache crew.world crew.fault)

end Crew

namespace Document

/-- The document with every search fence replaced by the output of its block. -/
def render {ε σ : Type} [ResultCache σ] (service : Service ε) (hub : Hub) (now : Instant)
    (refresh : Bool) (document : Text) (cache : σ) (world : ε) : Except Fault Text × σ × ε :=
  let segments := segments document
  let crew : Crew service σ := ⟨(sources segments).map .ready, cache, world, none⟩
  let crew := crew.rounds hub now refresh (service.patience + 2) Crew.grace
  (match crew.fault with
    | some fault => .error fault
    | none => .ok (replaceFences segments (crew.jobs.map (·.output))), crew.cache, crew.world)

end Document

/-- One block rendered by itself, from its start to its end. -/
structure BlockRun (σ ε : Type) where
  result : Except Fault Outcome
  scene : Scene σ
  world : ε

namespace BlockRun

variable {ε σ : Type} [ResultCache σ]

/-- Runs a cycle through its search. The display may be closed when the search answers. -/
def follow (service : Service ε) (hub : Hub) (now : Instant) (closing : Bool)
    (first : CycleM σ Begun) (cache : σ) (world : ε) : BlockRun σ ε :=
  match first.run.run ⟨Display.blank, cache⟩ with
  | (.error fault, scene) => ⟨.error fault, scene, world⟩
  | (.ok (.finished outcome), scene) => ⟨.ok outcome, scene, world⟩
  | (.ok (.searching pending), scene) =>
    let (outcome, world) := (service.search pending.spec.query pending.limit).run service.answer
      world
    let scene := if closing then { scene with display := scene.display.close } else scene
    let (result, scene) := (Cycle.resume hub now pending outcome).run.run scene
    ⟨result, scene, world⟩

end BlockRun

end QueryFence
