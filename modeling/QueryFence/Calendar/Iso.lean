import QueryFence.Calendar.Instant

/-!
Reading dates and times of ISO 8601: calendar and week dates, with or without hyphens, a separator
of any one character, a time with or without colons, and an offset from universal time.
-/

namespace QueryFence.Iso

/-- A point in time as it was written. -/
structure Moment where
  instant : Instant
  /-- An offset from universal time was written. -/
  hasOffset : Bool
deriving DecidableEq, Repr

/-- The character that stands for the end of a text. -/
def ending : Char := '\x00'

def charAt (t : Text) (n : Nat) : Char := t.getD n ending

/-- A number of exactly so many ASCII digits, and the rest. -/
def digits (count : Nat) (t : Text) : Option (Nat × Text) :=
  let written := t.take count
  if written.length = count ∧ written.all Char.isDigit then
    some (Nat.ofDigitChars 10 written 0, t.drop count)
  else none

/-- Where the date ends. Weeks leave it open whether a weekday follows; the number of digits after
them, or the character after a hyphen, decides. -/
def dateLength (t : Text) : Option Nat :=
  let length := t.length
  if length < 7 then none
  else if length = 7 then some 7
  else if charAt t 4 = '-' then
    if charAt t 5 = 'W' then
      if 8 < length ∧ charAt t 8 = '-' then
        if length = 9 then none
        else if 10 < length ∧ (charAt t 10).isDigit then some 8
        else some 10
      else some 8
    else some 10
  else if charAt t 4 = 'W' then
    let stop := 7 + ((t.drop 7).takeWhile Char.isDigit).length
    some (if stop < 9 then stop else if stop % 2 = 0 then 7 else 8)
  else some 8

/-- A date at the start of a text, which must end at the given place. -/
def readDate (t : Text) (length : Nat) : Option Date := do
  let (year, rest) ← digits 4 t
  let hyphens := charAt rest 0 = '-'
  let rest := if hyphens then rest.drop 1 else rest
  if charAt rest 0 = 'W' then
    let (week, rest) ← digits 2 (rest.drop 1)
    if t.length - rest.length < length then
      let rest ← if hyphens then (if charAt rest 0 = '-' then some (rest.drop 1) else none)
        else some rest
      let (day, _) ← digits 1 rest
      Date.ofWeek? year week day
    else Date.ofWeek? year week 1
  else
    let (month, rest) ← digits 2 rest
    let rest ← if hyphens then (if charAt rest 0 = '-' then some (rest.drop 1) else none)
      else some rest
    let (day, rest) ← digits 2 rest
    if t.length - rest.length = length then some ⟨year, month, day⟩ else none

/-- A time of day, and whether something is left before the place where it should end. -/
structure Time where
  hour : Nat
  minute : Nat
  second : Nat
  micro : Nat
  remains : Bool

/-- A fraction of a second in microseconds; digits after the sixth are dropped. -/
def readFraction (t : Text) (next : Char) : Option (Nat × Bool) := do
  let count := min 6 t.length
  let (n, rest) ← digits count t
  if count = 0 then none
  else
    let rest := rest.dropWhile Char.isDigit
    some (n * Nat.pow 10 (6 - count), charAt (rest ++ [next]) 0 != ending)

/-- Whether at most one more character of ASCII is left. It is read, but no part follows it. -/
def isLast : Text → Bool
  | [] => true
  | [c] => c.toNat < 128
  | _ => false

/-- A time up to the character `next`, which is the end of the text or starts an offset. Whether
colons are used shows after the hour; where they are, one may also stand before the fraction. -/
def readTime (t : Text) (next : Char) : Option Time := do
  let (hour, rest) ← digits 2 t
  let c := charAt (rest ++ [next]) 0
  let colons := c = ':'
  if isLast rest then some ⟨hour, 0, 0, 0, c != ending⟩
  else
    let finish (minute second : Nat) (rest : Text) : Option Time := do
      let (micro, remains) ← readFraction rest next
      some ⟨hour, minute, second, micro, remains⟩
    if c = '.' || c = ',' then finish 0 0 (rest.drop 1)
    else
      let (minute, rest) ← digits 2 (if colons then rest.drop 1 else rest)
      let c := charAt (rest ++ [next]) 0
      if isLast rest then some ⟨hour, minute, 0, 0, c != ending⟩
      else if c = '.' || c = ',' then finish minute 0 (rest.drop 1)
      else if colons && c != ':' then none
      else
        let (second, rest) ← digits 2 (if colons then rest.drop 1 else rest)
        let c := charAt (rest ++ [next]) 0
        if isLast rest then some ⟨hour, minute, second, 0, c != ending⟩
        else if c = '.' || c = ',' || (colons && c = ':') then finish minute second (rest.drop 1)
        else if colons then none
        else finish minute second rest

/-- A time with an optional offset. -/
def readClock (t : Text) : Option (Time × Bool) := do
  let isZone (c : Char) : Bool := c = '+' || c = '-' || c = 'Z'
  let clock := t.takeWhile (!isZone ·)
  match t.dropWhile (!isZone ·) with
  | [] =>
    let time ← readTime clock ending
    if time.remains then none else some (time, false)
  | zone :: offset =>
    let time ← readTime clock zone
    if zone = 'Z' then (if charAt offset 0 = ending then some (time, true) else none)
    else
      let shift ← readTime offset ending
      let seconds := (shift.hour * 60 + shift.minute) * 60 + shift.second
      if shift.remains || 86400 * 1000000 ≤ seconds * 1000000 + shift.micro then none
      else some (time, true)

/-- The moment that a text names. -/
def read (t : Text) : Option Moment := do
  let length ← dateLength t
  let date ← readDate t length
  if !date.isValid then none
  else
    match t.drop length with
    | [] => some ⟨.ofParts date 0 0 0 0, false⟩
    | _ :: rest =>
      let (time, hasOffset) ← readClock rest
      if time.hour < 24 && time.minute < 60 && time.second < 60 then
        some ⟨.ofParts date time.hour time.minute time.second time.micro, hasOffset⟩
      else none

end QueryFence.Iso
