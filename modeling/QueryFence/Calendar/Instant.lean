import QueryFence.Calendar.Date

/-!
Points in time by the wall clock, to the microsecond, and spans between them.
-/

namespace QueryFence

/-- Microseconds since the first midnight of the year 1. -/
structure Instant where
  micros : Int
deriving DecidableEq, Repr, Inhabited

namespace Instant

instance : LE Instant := ⟨fun a b => a.micros ≤ b.micros⟩

def microsPerSecond : Nat := 1000000

def microsPerDay : Nat := 86400 * microsPerSecond

/-- The first instant after the year 9999. -/
def endOfTime : Int := (3652059 * microsPerDay : Nat)

def ofParts (date : Date) (hour minute second micro : Nat) : Instant :=
  ⟨((date.number - 1) * microsPerDay + ((hour * 60 + minute) * 60 + second) * microsPerSecond +
    micro : Nat)⟩

def date (t : Instant) : Date := Date.ofNumber (t.micros.toNat / microsPerDay + 1)

/-- The microseconds since midnight. -/
def timeOfDay (t : Instant) : Nat := t.micros.toNat % microsPerDay

/-- Hour, minute and second with colons. -/
def clockText (t : Instant) : Text :=
  let s := t.timeOfDay / microsPerSecond
  Text.padded 2 (s / 3600) ++ ':' :: Text.padded 2 (s / 60 % 60) ++ ':' :: Text.padded 2 (s % 60)

/-- The form that is stored: four digits of the year, a `T` before the time, and six digits of
fraction when it is not zero. -/
def isoText (t : Instant) : Text :=
  let d := t.date
  let micro := t.timeOfDay % microsPerSecond
  Text.padded 4 d.year ++ '-' :: Text.padded 2 d.month ++ '-' :: Text.padded 2 d.day ++
    'T' :: t.clockText ++ (if micro = 0 then [] else '.' :: Text.padded 6 micro)

/-- The form that is shown. -/
def shownText (t : Instant) : Text := t.date.text ++ ' ' :: t.clockText

/-- A later or earlier instant, if there is one in the years 1 to 9999. -/
def shift? (t : Instant) (micros : Int) : Option Instant :=
  let moved := t.micros + micros
  if 0 ≤ moved ∧ moved < endOfTime then some ⟨moved⟩ else none

end Instant

end QueryFence
