import QueryFence.Proofs.Cache.History
import QueryFence.Proofs.Cycle
import QueryFence.Proofs.Rounds.Passing
import QueryFence.Proofs.Rounds.Patience

/-!
Calls written down. A search service and a cache that keep a list of what they are asked, and otherwise do
what the service and the cache below them do: with the lists erased, a block runs on them as it runs on
those.
-/

namespace QueryFence

section Searches

variable {ε : Type}

/-- What a service asks that writes its searches down. -/
inductive Service.Note (Ask : Type)
  | search (query : Text) (limit : Int)
  | ask (question : Ask)

abbrev Service.Note.Reply {Ask : Type} (Reply : Ask → Type) : Service.Note Ask → Type
  | .search _ _ => Unit
  | .ask question => Reply question

/-- A plan among the questions of a service that writes its searches down. -/
def Plan.noted {Ask : Type} {Reply : Ask → Type} {α : Type} :
    Plan Ask Reply α → Plan (Service.Note Ask) (Service.Note.Reply Reply) α
  | .done a => .done a
  | .ask question next => .ask (.ask question) fun reply => (next reply).noted

/-- A service that writes the query and the limit of every search down before it runs it. -/
def Service.logged (service : Service ε) : Service (ε × List (Text × Int)) where
  Ask := Note service.Ask
  Reply := Note.Reply service.Reply
  search query limit := .ask (.search query limit) fun _ => (service.search query limit).noted
  answer
    | .search query limit, (world, calls) => ((), (world, calls ++ [(query, limit)]))
    | .ask question, (world, calls) =>
      ((service.answer question world).1, ((service.answer question world).2, calls))
  waits
    | .search _ _ => false
    | .ask question => service.waits question
  patience := service.patience

variable {service : Service ε}

theorem Service.run_noted {α : Type} (p : Plan service.Ask service.Reply α) (world : ε)
    (calls : List (Text × Int)) :
    p.noted.run service.logged.answer (world, calls) =
      ((p.run service.answer world).1, ((p.run service.answer world).2, calls)) := by
  induction p generalizing world with
  | done a => rfl
  | ask question next ih => exact ih _ _

theorem Service.run_logged (query : Text) (limit : Int) (world : ε) (calls : List (Text × Int)) :
    (service.logged.search query limit).run service.logged.answer (world, calls) =
      (((service.search query limit).run service.answer world).1,
        (((service.search query limit).run service.answer world).2, calls ++ [(query, limit)])) :=
  run_noted _ world (calls ++ [(query, limit)])

theorem Service.IsPatient.logged (h : service.IsPatient) : service.logged.IsPatient := by
  have hnoted : ∀ {n : Nat} {p : Plan service.Ask service.Reply (Except SearchFailure Json)},
      p.WaitsWithin service.waits n → p.noted.WaitsWithin service.logged.waits n := by
    intro n p hp
    induction hp with
    | done => exact .done
    | ask hask _ ih => exact .ask hask ih
    | wait hask _ ih => exact .wait hask ih
  intro query limit
  exact .ask rfl fun _ => hnoted (h query limit)

end Searches

/-- A cache with the calls it got. -/
structure Logged (σ : Type) where
  cache : σ
  calls : List CacheCall

variable {σ : Type}

/-- A scene without the calls of its cache. -/
def Scene.erase (s : Scene (Logged σ)) : Scene σ := ⟨s.display, s.cache.cache⟩

instance [ResultCache σ] : ResultCache (Logged σ) where
  get c now key :=
    ((ResultCache.get c.cache now key).1, ⟨(ResultCache.get c.cache now key).2, c.calls ++ [.get key]⟩)
  add c now key data isError :=
    ((ResultCache.add c.cache now key data isError).1,
      ⟨(ResultCache.add c.cache now key data isError).2, c.calls ++ [.add key data isError]⟩)
  delete c key :=
    ((ResultCache.delete c.cache key).1,
      ⟨(ResultCache.delete c.cache key).2, c.calls ++ [.delete key]⟩)

namespace Logged

variable [ResultCache σ]

theorem get_eq (c : Logged σ) (now : Instant) (key : Text) :
    ResultCache.get c now key = ((ResultCache.get c.cache now key).1,
      ⟨(ResultCache.get c.cache now key).2, c.calls ++ [.get key]⟩) := rfl

theorem add_eq (c : Logged σ) (now : Instant) (key : Text) (data : Json) (isError : Bool) :
    ResultCache.add c now key data isError = ((ResultCache.add c.cache now key data isError).1,
      ⟨(ResultCache.add c.cache now key data isError).2, c.calls ++ [.add key data isError]⟩) := rfl

end Logged

namespace Cycle

variable {α β : Type} {hub : Hub} {now : Instant} {spec : Spec}

/-- A step on a cache that writes its calls down does what another step does on the cache below. -/
def Follows (logged : CycleM (Logged σ) α) (plain : CycleM σ α) : Prop :=
  ∀ s, plain.run.run s.erase = ((logged.run.run s).1, (logged.run.run s).2.erase)

theorem follows_pure (a : α) : Follows (pure a : CycleM (Logged σ) α) (pure a) := by
  intro s
  rfl

theorem follows_throw (fault : Fault) : Follows (throw fault : CycleM (Logged σ) α) (throw fault) := by
  intro s
  rfl

theorem follows_result (r : Except Fault α) :
    Follows (ExceptT.mk (pure r) : CycleM (Logged σ) α) (ExceptT.mk (pure r)) := by
  intro s
  rfl

theorem follows_showText (call : Showing) (t : Text) :
    Follows (showText call t : CycleM (Logged σ) Unit) (showText call t) := by
  intro s
  rfl

theorem follows_onCache {f : Logged σ → Except Fault α × Logged σ} {g : σ → Except Fault α × σ}
    (h : ∀ c, g c.cache = ((f c).1, (f c).2.cache)) : Follows (onCache f) (onCache g) := by
  intro s
  rw [run_onCache, run_onCache, Scene.erase, h]
  rfl

theorem Follows.bind {logged : CycleM (Logged σ) α} {plain : CycleM σ α}
    {next : α → CycleM (Logged σ) β} {next' : α → CycleM σ β} (h : Follows logged plain)
    (hnext : ∀ a, Follows (next a) (next' a)) : Follows (logged >>= next) (plain >>= next') := by
  intro s
  rw [run_bind, run_bind, h s]
  rcases logged.run.run s with ⟨fault | a, s'⟩
  · rfl
  · exact hnext a s'

theorem follows_showError (message : Json) (spec : Option Spec) :
    Follows (showError hub message spec : CycleM (Logged σ) Unit) (showError hub message spec) :=
  follows_showText _ _

variable [ResultCache σ]

theorem getTime_logged (c : Logged σ) (key : Text) :
    ResultCache.getTime c.cache now key =
      ((ResultCache.getTime c now key).1, (ResultCache.getTime c now key).2.cache) := by
  rw [ResultCache.getTime, ResultCache.getTime, Logged.get_eq]
  rcases ResultCache.get c.cache now key with ⟨fault | found, after⟩
  · rfl
  · cases found <;> rfl

theorem follows_resultsText (results : Json) :
    Follows (resultsText hub now spec results : CycleM (Logged σ) Text)
      (resultsText hub now spec results) := by
  rw [resultsText, resultsText]
  cases spec.mode with
  | list => exact follows_result _
  | table =>
    apply (follows_result _).bind
    intro body
    apply (follows_onCache fun c => getTime_logged c spec.cacheKey).bind
    intro time
    exact follows_pure _

theorem follows_showResults (results : Json) :
    Follows (showResults hub now spec results : CycleM (Logged σ) Unit)
      (showResults hub now spec results) := by
  intro s
  have hclosed : s.erase.display.closed = s.display.closed := rfl
  simp only [showResults, run_bind, run_get, hclosed]
  cases s.display.closed with
  | true => exact follows_showText _ _ s
  | false =>
    exact ((follows_resultsText results).bind fun t => follows_showText .results t) s

theorem follows_showStored (record : Json) :
    Follows (showStored hub now spec record : CycleM (Logged σ) Outcome)
      (showStored hub now spec record) := by
  apply (follows_result _).bind
  intro isError
  apply (follows_result _).bind
  intro data
  split
  · exact (follows_showResults data).bind fun _ => follows_pure _
  · exact (follows_showError data (some spec)).bind fun _ => follows_pure _

theorem follows_start (hub : Hub) (now : Instant) (source : Text) :
    Follows (start hub now source : CycleM (Logged σ) Begun) (start hub now source) := by
  rw [start, start]
  cases Spec.read hub.settings source with
  | error failure =>
    cases failure with
    | rejected error => exact (follows_showError _ none).bind fun _ => follows_pure _
    | fault fault => exact follows_throw fault
  | ok spec =>
    apply (follows_onCache fun c => by rw [Logged.get_eq]).bind
    intro found
    cases found with
    | some record => exact (follows_showStored record).bind fun _ => follows_pure _
    | none => exact (follows_showText .loading loadingText).bind fun _ => follows_pure _

theorem follows_resume (hub : Hub) (now : Instant) (p : Pending)
    (outcome : Except SearchFailure Json) :
    Follows (resume hub now p outcome : CycleM (Logged σ) Outcome) (resume hub now p outcome) := by
  cases outcome with
  | error failure =>
    apply (follows_onCache fun c => by rw [Logged.add_eq]).bind
    intro record
    exact (follows_showError _ (some p.spec)).bind fun _ => follows_pure _
  | ok results =>
    apply (follows_result _).bind
    intro total
    apply (follows_onCache fun c => by rw [Logged.add_eq]).bind
    intro record
    apply (follows_result _).bind
    intro data
    exact (follows_showResults data).bind fun _ => follows_pure _

end Cycle

namespace BlockRun

variable {ε : Type}

/-- A run without the calls that were written down. -/
def erase (run : BlockRun (Logged σ) (ε × List (Text × Int))) : BlockRun σ ε :=
  ⟨run.result, run.scene.erase, run.world.1⟩

variable {service : Service ε} {hub : Hub} {now later : Instant} {source : Text} [ResultCache σ]

/-- A block run with its calls written down. -/
def logged (service : Service ε) (hub : Hub) (now later : Instant) (source : Text) (cache : σ)
    (world : ε) : BlockRun (Logged σ) (ε × List (Text × Int)) :=
  between service.logged hub now later source ⟨cache, []⟩ (world, [])

/-- Writing the calls down changes nothing else. -/
theorem erase_logged (cache : σ) (world : ε) :
    (logged service hub now later source cache world).erase =
      between service hub now later source cache world := by
  have hstart := Cycle.follows_start hub now source (⟨Display.blank, ⟨cache, []⟩⟩ : Scene (Logged σ))
  rw [Scene.erase] at hstart
  rw [logged, between, between, hstart]
  rcases (Cycle.start hub now source).run.run (⟨Display.blank, ⟨cache, []⟩⟩ : Scene (Logged σ)) with
    ⟨fault | ⟨outcome | p⟩, s⟩
  · rfl
  · rfl
  · dsimp only
    rw [Service.run_logged, Cycle.follows_resume hub later p _ s]
    rfl

end BlockRun

end QueryFence
