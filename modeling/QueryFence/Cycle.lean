import QueryFence.Cache.Basic
import QueryFence.Jira.Client
import QueryFence.View

/-!
Render cycles: one search block from its text to what is shown for it. A cycle looks its search up
in the cache; where it finds nothing it stops for the search, and goes on with the outcome.
-/

namespace QueryFence

/-- The calls that a display gets. -/
inductive Showing
  | loading
  | results
  | error
  | errorWithSpec
deriving DecidableEq, Repr

/-- What is shown for one block: each call replaces the output, until the display is closed. -/
structure Display where
  output : Text
  closed : Bool
  /-- The calls so far, each with the output after it. -/
  history : List (Showing × Text)
deriving DecidableEq, Repr

namespace Display

def blank : Display := ⟨[], false, []⟩

def close (d : Display) : Display := { d with closed := true }

/-- A call that would show a text. -/
def put (d : Display) (call : Showing) (t : Text) : Display :=
  let output := if d.closed then d.output else t
  { d with output := output, history := d.history ++ [(call, output)] }

end Display

/-- What cycles have in common: the settings, and the columns of tables that list none. -/
structure Hub where
  settings : Settings
  columns : List Column

/-- The default columns are read first, so that a mistake in them shows before any block. -/
def Hub.of (settings : Settings) : Except SpecFailure Hub :=
  match Column.defaults settings with
  | .ok columns => .ok ⟨settings, columns⟩
  | .error failure => .error failure

/-- How a cycle ends. -/
inductive Outcome
  | rendered (spec : Spec) (results : Json)
  | failed (spec : Option Spec) (message : Json)

/-- A cycle that waits for its search. -/
structure Pending where
  spec : Spec
  limit : Int
deriving DecidableEq, Repr

/-- How far a cycle came before its search. -/
inductive Begun
  | finished (outcome : Outcome)
  | searching (pending : Pending)

/-- What a cycle changes. -/
structure Scene (σ : Type) where
  display : Display
  cache : σ

/-- A step of a cycle: it may end in a fault, and keeps what was changed before. -/
abbrev CycleM (σ : Type) := ExceptT Fault (StateM (Scene σ))

namespace Cycle

variable {σ : Type} [ResultCache σ]

/-- An operation on the cache. -/
def onCache {α : Type} (f : σ → Except Fault α × σ) : CycleM σ α := do
  let scene ← get
  let (result, cache) := f scene.cache
  set { scene with cache := cache }
  ExceptT.mk (pure result)

def showText (call : Showing) (t : Text) : CycleM σ Unit :=
  modify fun scene => { scene with display := scene.display.put call t }

/-- The limit of a search: the block's own, or else that of the settings. -/
def effectiveLimit (hub : Hub) (spec : Spec) : Int :=
  match spec.limit with
  | some limit => limit.value
  | none => hub.settings.resultsLimit

/-- The text of results. The footer of a table tells when they were stored. -/
def resultsText (hub : Hub) (now : Instant) (spec : Spec) (results : Json) : CycleM σ Text := do
  match spec.mode with
  | .list => ExceptT.mk (pure (IssueList.write results))
  | .table =>
    let columns := if spec.columns.isEmpty then hub.columns else spec.columns
    let body ← ExceptT.mk (pure (Table.writeUpToTime hub.settings columns results))
    let time ← onCache fun cache => ResultCache.getTime cache now spec.cacheKey
    return body ++ time

/-- Shows results. A closed display does not even look at them. -/
def showResults (hub : Hub) (now : Instant) (spec : Spec) (results : Json) : CycleM σ Unit := do
  let scene ← get
  if scene.display.closed then showText .results []
  else showText .results (← resultsText hub now spec results)

def showError (hub : Hub) (message : Json) (spec : Option Spec) : CycleM σ Unit :=
  showText (if spec.isSome then .errorWithSpec else .error) (errorText hub.settings message spec)

/-- Shows an outcome that the cache holds. -/
def showStored (hub : Hub) (now : Instant) (spec : Spec) (record : Json) : CycleM σ Outcome := do
  let isError ← ExceptT.mk (pure (record.item "is_error"))
  let data ← ExceptT.mk (pure (record.item "data"))
  if isError.isVoid then
    showResults hub now spec data
    return .rendered spec data
  else
    showError hub data (some spec)
    return .failed (some spec) data

/-- A cycle up to its search. -/
def start (hub : Hub) (now : Instant) (source : Text) : CycleM σ Begun := do
  match Spec.read hub.settings source with
  | .error (.fault fault) => throw fault
  | .error (.rejected error) =>
    showError hub (.text error.message) none
    return .finished (.failed none (.text error.message))
  | .ok spec =>
    match ← onCache fun cache => ResultCache.get cache now spec.cacheKey with
    | some record => return .finished (← showStored hub now spec record)
    | none =>
      showText .loading loadingText
      return .searching ⟨spec, effectiveLimit hub spec⟩

/-- A cycle after its search. Results without a total are no results. -/
def resume (hub : Hub) (now : Instant) (pending : Pending) :
    Except SearchFailure Json → CycleM σ Outcome
  | .error failure => do
    let message := Json.text failure.message
    let _ ← onCache fun cache => ResultCache.add cache now pending.spec.cacheKey message true
    showError hub message (some pending.spec)
    return .failed (some pending.spec) message
  | .ok results => do
    let _ ← ExceptT.mk (pure (results.item "total"))
    let record ← onCache fun cache =>
      ResultCache.add cache now pending.spec.cacheKey results false
    let data ← ExceptT.mk (pure (record.item "data"))
    showResults hub now pending.spec data
    return .rendered pending.spec data

/-- Drops what the cache holds for a block and starts over from its canonical text. -/
def startOver (hub : Hub) (now : Instant) (spec : Spec) : CycleM σ Begun := do
  onCache fun cache => ResultCache.delete cache spec.cacheKey
  start hub now (spec.write hub.settings)

/-- Starts the cycle of a block, over when asked to. A block that is not read has nothing to
drop. -/
def startBlock (hub : Hub) (now : Instant) (refresh : Bool) (source : Text) : CycleM σ Begun := do
  if refresh then
    match Spec.read hub.settings source with
    | .ok spec => startOver hub now spec
    | .error (.rejected _) => start hub now source
    | .error (.fault fault) => throw fault
  else start hub now source

end Cycle

end QueryFence
