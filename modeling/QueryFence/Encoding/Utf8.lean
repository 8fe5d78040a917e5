import QueryFence.Text.Basic

/-!
Reading UTF-8. Bytes that are no character are replaced by a mark, one for each longest run that
could have become a character.
-/

namespace QueryFence.Utf8

/-- What stands for bytes that are no character. -/
def replacement : Char := '\uFFFD'

/-- A character of which the first bytes have been read. -/
structure Partial where
  /-- How many bytes are missing, less one. -/
  missing : Nat
  /-- The number that the bytes so far make. -/
  value : Nat
  /-- The bounds of the next byte. -/
  low : Nat
  high : Nat

/-- The character or the part of one that starts with a byte. -/
def lead (b : Nat) : Text × Option Partial :=
  if b < 0x80 then ([Char.ofNat b], none)
  else if 0xC2 ≤ b && b ≤ 0xDF then ([], some ⟨0, b - 0xC0, 0x80, 0xBF⟩)
  else if b = 0xE0 then ([], some ⟨1, 0, 0xA0, 0xBF⟩)
  else if b = 0xED then ([], some ⟨1, 13, 0x80, 0x9F⟩)
  else if 0xE1 ≤ b && b ≤ 0xEF then ([], some ⟨1, b - 0xE0, 0x80, 0xBF⟩)
  else if b = 0xF0 then ([], some ⟨2, 0, 0x90, 0xBF⟩)
  else if 0xF1 ≤ b && b ≤ 0xF3 then ([], some ⟨2, b - 0xF0, 0x80, 0xBF⟩)
  else if b = 0xF4 then ([], some ⟨2, 4, 0x80, 0x8F⟩)
  else ([replacement], none)

/-- A part of a character with one more byte; the byte may start the next character instead. -/
def Partial.extend (p : Partial) (b : Nat) : Text × Option Partial :=
  if p.low ≤ b && b ≤ p.high then
    let value := 64 * p.value + (b - 0x80)
    match p.missing with
    | 0 => ([Char.ofNat value], none)
    | missing + 1 => ([], some ⟨missing, value, 0x80, 0xBF⟩)
  else
    let (t, next) := lead b
    (replacement :: t, next)

/-- The text of further bytes behind a part of a character. -/
def decodeFrom : Option Partial → List UInt8 → Text
  | none, [] => []
  | some _, [] => [replacement]
  | p, b :: rest =>
    let (t, next) := match p with
      | none => lead b.toNat
      | some p => p.extend b.toNat
    t ++ decodeFrom next rest

/-- The text of bytes. -/
def decode (bytes : List UInt8) : Text := decodeFrom none bytes

end QueryFence.Utf8
