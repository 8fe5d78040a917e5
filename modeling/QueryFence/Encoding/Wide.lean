import QueryFence.Text.Basic

/-!
Texts in units of two or four bytes, with the highest byte of a unit first or last. Two units of two
bytes make one character where they are surrogates that belong together.
-/

namespace QueryFence.Wide

/-- How a text is written in bytes. -/
structure Layout where
  /-- Whether a unit has four bytes instead of two. -/
  four : Bool
  highFirst : Bool
deriving DecidableEq, Repr

def Layout.name (l : Layout) : Text :=
  (if l.four then "utf-32-" else "utf-16-") ++ (if l.highFirst then "be" else "le")

/-- Bytes that make no character. -/
structure Problem where
  layout : Layout
  /-- The place of the first of the bytes. -/
  position : Nat
  bytes : List UInt8
  reason : Text
deriving DecidableEq, Repr

def Problem.message (p : Problem) : Text :=
  "'" ++ p.layout.name ++ "' codec can't decode " ++
    (match p.bytes with
      | [b] => "byte 0x" ++ Text.hex 2 b.toNat ++ " in position " ++ Text.ofNat p.position
      | bytes => "bytes in position " ++ Text.ofNat p.position ++ "-" ++
          Text.ofNat (p.position + bytes.length - 1)) ++ ": " ++ p.reason

/-- The character of one unit; a surrogate has none and is replaced. -/
def ofUnit (n : Nat) : Char := if 0xD800 ≤ n ∧ n < 0xE000 then '\uFFFD' else Char.ofNat n

/-- The text of units of two bytes. -/
def ofUnits : List Nat → Text
  | [] => []
  | [n] => [ofUnit n]
  | n :: m :: more =>
    if 0xD800 ≤ n ∧ n < 0xDC00 ∧ 0xDC00 ≤ m ∧ m < 0xE000 then
      Char.ofNat (0x10000 + 0x400 * (n - 0xD800) + (m - 0xDC00)) :: ofUnits more
    else ofUnit n :: ofUnits (m :: more)

/-- The number that the bytes of a unit make. -/
def unit (highFirst : Bool) (bytes : List UInt8) : Nat :=
  (if highFirst then bytes else bytes.reverse).foldl (fun n b => 256 * n + b.toNat) 0

/-- The numbers of the whole units, and the bytes that are left. -/
def pairs (highFirst : Bool) : List UInt8 → List Nat × List UInt8
  | a :: b :: rest =>
    let (units, left) := pairs highFirst rest
    (unit highFirst [a, b] :: units, left)
  | left => ([], left)

/-- The text of units of four bytes behind `position` others. -/
def quads (highFirst : Bool) (position : Nat) : List UInt8 → Except Problem Text
  | a :: b :: c :: d :: rest =>
    let n := unit highFirst [a, b, c, d]
    if 0x10FFFF < n then
      .error ⟨⟨true, highFirst⟩, position, [a, b, c, d], "code point not in range(0x110000)"⟩
    else (quads highFirst (position + 4) rest).map (ofUnit n :: ·)
  | [] => .ok []
  | left => .error ⟨⟨true, highFirst⟩, position, left, "truncated data"⟩

/-- The text that is written in bytes. -/
def decode (l : Layout) (bytes : List UInt8) : Except Problem Text :=
  if l.four then quads l.highFirst 0 bytes
  else
    match pairs l.highFirst bytes with
    | (units, []) => .ok (ofUnits units)
    | (units, left) => .error ⟨l, 2 * units.length, left, "truncated data"⟩

end QueryFence.Wide
