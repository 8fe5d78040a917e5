import QueryFence.Calendar.Iso
import QueryFence.Calendar.Span
import QueryFence.Json.Access

/-!
Result caches: stores of search outcomes by key, in which every outcome is kept for a fixed span. A
stored outcome is seen as a JSON object, because a cache may keep its outcomes in files.
-/

namespace QueryFence

/-- The outcome of a search as it is stored: results, or the message of a failure. -/
structure Entry where
  data : Json
  isError : Bool
  /-- When it was stored. -/
  time : Text

def Entry.toJson (e : Entry) : Json :=
  .object [("data", e.data), ("is_error", .bool e.isError), ("time", .text e.time)]

/-- The entry stored at an instant. -/
def Entry.at (now : Instant) (data : Json) (isError : Bool) : Entry := ⟨data, isError, now.isoText⟩

/-- The operations of a result cache. Each gives the cache after it, also when it ends in a fault. -/
class ResultCache (σ : Type) where
  /-- The live outcome under a key. -/
  get : σ → Instant → Text → Except Fault (Option Json) × σ
  /-- Stores an outcome and gives it back. -/
  add : σ → Instant → Text → Json → Bool → Except Fault Json × σ
  delete : σ → Text → Except Fault Unit × σ

/-- What is shown for a time that is not known. -/
def missingTime : Text := "-"

/-- The time of a stored outcome as it is shown. -/
def shownTime (record : Json) : Except Fault Text := do
  match ← record.item "time" with
  | .text t =>
    match Iso.read t with
    | some moment => return moment.instant.shownText
    | none => throw (.badValue "Invalid isoformat string")
  | _ => throw (.wrongKind "fromisoformat: argument must be str")

/-- The time of the live outcome under a key as it is shown. -/
def ResultCache.getTime {σ : Type} [ResultCache σ] (cache : σ) (now : Instant) (key : Text) :
    Except Fault Text × σ :=
  match ResultCache.get cache now key with
  | (.error fault, cache) => (.error fault, cache)
  | (.ok none, cache) => (.ok missingTime, cache)
  | (.ok (some record), cache) => (shownTime record, cache)

end QueryFence
