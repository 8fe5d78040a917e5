import QueryFence.Text.Basic

/-!
Punycode: a text written with ASCII letters, digits and hyphens alone. The characters of ASCII stand
in front; behind them the others follow by ascending code points, each as the distance from the one
before, in digits whose weights adapt to the distances so far. What is read is a list of code points,
as a text may write one that is no character.
-/

namespace QueryFence.Punycode

def isBasic (c : Char) : Bool := c.toNat < 128

/-- The letters come before the figures. -/
def digit (n : Nat) : Char := if n < 26 then Char.ofNat (97 + n) else Char.ofNat (22 + n)

/-- A digit below the threshold ends its number. -/
def threshold (bias position : Nat) : Nat := min 26 (max 1 (position - bias))

/-- The digits of a number, the lowest first. -/
def number (bias position n : Nat) : Text :=
  let t := threshold bias position
  if n < t then [digit n]
  else digit (t + (n - t) % (36 - t)) :: number bias (position + 36) ((n - t) / (36 - t))
termination_by n
decreasing_by
  have : 1 ≤ threshold bias position := by simp only [threshold]; omega
  exact Nat.lt_of_le_of_lt (Nat.div_le_self _ _) (by omega)

/-- Divides a distance until it is small, and counts the divisions. -/
def shrink (distance count : Nat) : Nat × Nat :=
  if 455 < distance then shrink (distance / 35) (count + 1) else (distance, count)
termination_by distance
decreasing_by exact Nat.div_lt_self (by omega) (by omega)

/-- The bias after a distance has been written; `written` characters stand before it. -/
def adapt (distance written : Nat) (isFirst : Bool) : Nat :=
  let damped := distance / (if isFirst then 700 else 2)
  let (rest, count) := shrink (damped + damped / written) 0
  36 * count + 36 * rest / (rest + 38)

/-- How far the writing has come. -/
structure Progress where
  out : Text
  /-- The distance from the character before. -/
  distance : Nat
  bias : Nat
  /-- How many characters have been written. -/
  written : Nat

/-- Passes a character of the text while those with the code point `n` are written; `basic`
characters are of ASCII. -/
def pass (basic n : Nat) (p : Progress) (c : Char) : Progress :=
  if c.toNat < n then { p with distance := p.distance + 1 }
  else if c.toNat = n then
    ⟨p.out ++ number p.bias 36 p.distance, 0,
      adapt p.distance (p.written + 1) (p.written == basic), p.written + 1⟩
  else p

/-- Writes the characters with the given code points, which ascend from `next` on. -/
def writeFrom (t : Text) (basic : Nat) : Nat → List Nat → Progress → Text
  | _, [], p => p.out
  | next, n :: rest, p =>
    let p := t.foldl (pass basic n)
      { p with distance := p.distance + (n - next) * (p.written + 1) }
    writeFrom t basic (n + 1) rest { p with distance := p.distance + 1 }

def encode (t : Text) : Text :=
  let basic := t.filter isBasic
  let others := ((t.filter (!isBasic ·)).map Char.toNat).mergeSort (Nat.ble · ·)
  (if basic.isEmpty then [] else basic ++ ['-']) ++
    writeFrom t basic.length 128 others.eraseDups ⟨[], 0, 72, basic.length⟩

def digitOf? (c : Char) : Option Nat :=
  if c.isLower then some (c.toNat - 97)
  else if c.isUpper then some (c.toNat - 65)
  else if c.isDigit then some (c.toNat - 22)
  else none

/-- How far the reading has come. -/
structure Reading where
  out : List Nat
  /-- The code point that is inserted next, if the distance is zero. -/
  code : Nat
  /-- The place where it is inserted. -/
  place : Nat
  bias : Nat
  /-- Whether no distance has been read yet. -/
  isFirst : Bool
  /-- The distance, as far as it has been read. -/
  distance : Nat
  /-- The weight of its next digit. -/
  weight : Nat
  /-- The position of its next digit. -/
  position : Nat

/-- Inserts a code point at the distance that has been read. -/
def Reading.insert (r : Reading) : Option Reading :=
  let n := r.out.length + 1
  let total := r.place + r.distance
  let code := r.code + total / n
  let place := total % n
  if 0x10FFFF < code then none
  else
    some ⟨r.out.take place ++ code :: r.out.drop place, code, place + 1,
      adapt r.distance n r.isFirst, false, 0, 1, 36⟩

/-- Reads one digit of a distance; the last digit is below its threshold. -/
def Reading.step (r : Reading) (c : Char) : Option Reading := do
  let d ← digitOf? c
  let t := threshold r.bias r.position
  let r := { r with distance := r.distance + d * r.weight }
  if d < t then r.insert
  else some { r with weight := r.weight * (36 - t), position := r.position + 36 }

/-- The code points that are written; `none` where the last distance has no end, a digit is none or a
code point is too large. -/
def decode (t : Text) : Option (List Nat) := do
  let (basic, behind) := Text.splitLast '-' t
  let r ← behind.foldlM Reading.step
    ⟨(basic.getD []).map Char.toNat, 128, 0, 72, true, 0, 1, 36⟩
  if r.position = 36 then some r.out else none

end QueryFence.Punycode
