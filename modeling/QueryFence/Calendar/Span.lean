import QueryFence.Calendar.Instant
import QueryFence.Json.Basic
import QueryFence.Fault

/-!
Spans of time, in whole microseconds.
-/

namespace QueryFence

/-- A span in microseconds. -/
structure Span where
  micros : Int
deriving DecidableEq, Repr, Inhabited

namespace Span

/-- No span has more days than this. -/
def greatestDays : Nat := 999999999

/-- A span unless it is out of range. -/
def ofMicros (micros : Int) : Except Fault Span :=
  let days := micros.fdiv Instant.microsPerDay
  if -greatestDays ≤ days ∧ days ≤ greatestDays then .ok ⟨micros⟩ else .error .overflow

/-- The nearest integer, a tie to the even one. -/
def nearest (r : Rat) : Int :=
  let size : Int := Binary64.roundedQuotient r.num.natAbs r.den
  if r < 0 then -size else size

/-- So many units of some microseconds each. The fraction of a unit is a rounded product; the sum is
rounded once more, to the microsecond. -/
def ofUnits (unit : Nat) : Json → Except Fault Span
  | .int n => ofMicros (n * unit)
  | .bool b => ofMicros (if b then unit else 0)
  | .float x =>
    match x.toRat? with
    | none =>
      .error (if x = .nan then .badValue "cannot convert float NaN to integer" else .overflow)
    | some r =>
      let whole : Int := r.num.tdiv r.den
      let part := ((Binary64.ofRat ((r - whole) * unit)).toRat?).getD 0
      ofMicros (nearest (whole * unit + part))
  | v => .error (.wrongKind ("unsupported type for timedelta component: " ++ v.kind.name))

def ofMinutes : Json → Except Fault Span := ofUnits 60000000

def ofHours : Json → Except Fault Span := ofUnits 3600000000

end Span

end QueryFence
