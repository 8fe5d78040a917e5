import QueryFence.Text.Basic

/-!
Days of the Gregorian calendar, counted from 1 for the first day of the year 1, and as year, month
and day or as year, week and weekday.
-/

namespace QueryFence

structure Date where
  year : Nat
  month : Nat
  day : Nat
deriving DecidableEq, Repr

namespace Date

def isLeap (year : Nat) : Bool := year % 4 == 0 && (year % 100 != 0 || year % 400 == 0)

def daysInMonth (year month : Nat) : Nat :=
  if month = 2 then (if isLeap year then 29 else 28)
  else if month = 4 ∨ month = 6 ∨ month = 9 ∨ month = 11 then 30
  else 31

/-- The dates that can be told: of the years 1 to 9999, and of days that the month has. -/
def isValid (d : Date) : Bool :=
  1 ≤ d.year && d.year ≤ 9999 && 1 ≤ d.month && d.month ≤ 12 && 1 ≤ d.day &&
    d.day ≤ daysInMonth d.year d.month

/-- The days of the years before a year. -/
def daysBeforeYear (year : Nat) : Nat :=
  let y := year - 1
  y * 365 + y / 4 - y / 100 + y / 400

/-- The days of the months of a year before a month. -/
def daysBeforeMonth (year : Nat) : Nat → Nat
  | 0 => 0
  | 1 => 0
  | month + 1 => daysBeforeMonth year month + daysInMonth year month

/-- The number of a day. -/
def number (d : Date) : Nat := daysBeforeYear d.year + daysBeforeMonth d.year d.month + d.day

/-- Walks over the months of a year that end before the given day of it. -/
def findMonth (year : Nat) : Nat → Nat → Nat → Date
  | 0, month, day => ⟨year, month, day⟩
  | fuel + 1, month, day =>
    if daysInMonth year month < day then findMonth year fuel (month + 1) (day - daysInMonth year month)
    else ⟨year, month, day⟩

/-- The date of a numbered day: whole cycles of 400, 100 and 4 years, then years, then months. -/
def ofNumber (number : Nat) : Date :=
  let n := number - 1
  let n400 := n / 146097
  let n := n % 146097
  let n100 := min 3 (n / 36524)
  let n := n - n100 * 36524
  let n4 := n / 1461
  let n := n % 1461
  let n1 := min 3 (n / 365)
  findMonth (n400 * 400 + n100 * 100 + n4 * 4 + n1 + 1) 11 1 (n - n1 * 365 + 1)

/-- The day of the week, 0 for a Monday. -/
def weekday (d : Date) : Nat := (d.number + 6) % 7

/-- Whether a year has 53 weeks: it starts on a Thursday, or on a Wednesday and is a leap year. -/
def hasLongYear (year : Nat) : Bool :=
  let first := weekday ⟨year, 1, 1⟩
  first == 3 || (first == 2 && isLeap year)

/-- The number of the Monday of a year's first week, the one that holds January 4; it may lie before
the first day of all. -/
def firstMonday (year : Nat) : Int :=
  let first : Date := ⟨year, 1, 1⟩
  let monday : Int := first.number - first.weekday
  if 3 < first.weekday then monday + 7 else monday

/-- The date of a week and a weekday, 1 for a Monday. -/
def ofWeek? (year week day : Nat) : Option Date :=
  let weeks := if hasLongYear year then 53 else 52
  if 1 ≤ year ∧ year ≤ 9999 ∧ 1 ≤ week ∧ week ≤ weeks ∧ 1 ≤ day ∧ day ≤ 7 then
    let number := firstMonday year + ((week - 1) * 7 + (day - 1) : Nat)
    if 1 ≤ number then some (ofNumber number.toNat) else none
  else none

/-- Year, month and day with hyphens, the year in as many digits as it has. -/
def text (d : Date) : Text :=
  Text.ofNat d.year ++ '-' :: Text.padded 2 d.month ++ '-' :: Text.padded 2 d.day

end Date

end QueryFence
