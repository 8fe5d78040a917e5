import QueryFence.Json.Basic

/-!
Writing JSON: on one line, or with every member and item on a line of its own. Characters beyond
ASCII stand as they are.
-/

namespace QueryFence.Json

/-- Numbers that JSON has no literal for are written by name. -/
def numberFormat : Binary64.Format := { Binary64.plainFormat with
  infinity := "Infinity"
  noNumber := "NaN" }

/-- One character inside a JSON string. -/
def escapeChar (c : Char) : Text :=
  if c = '"' then "\\\""
  else if c = '\\' then "\\\\"
  else if c = '\n' then "\\n"
  else if c = '\r' then "\\r"
  else if c = '\t' then "\\t"
  else if c = '\x0c' then "\\f"
  else if c = '\x08' then "\\b"
  else if c.toNat < 0x20 then '\\' :: 'u' :: Text.hex 4 c.toNat
  else [c]

def writeText (t : Text) : Text := '"' :: t.flatMap escapeChar ++ ['"']

/-- How items are set apart: `some step` puts each on a line of its own, indented by a step more
than the brackets around it. -/
structure Layout where
  step : Option Nat

namespace Layout

/-- What stands before an item at a depth. -/
def lineBreak (l : Layout) (depth : Nat) : Text :=
  match l.step with
  | some n => '\n' :: List.replicate (n * depth) ' '
  | none => []

/-- What stands between two items at a depth. -/
def between (l : Layout) (depth : Nat) : Text :=
  match l.step with
  | some _ => ',' :: l.lineBreak depth
  | none => ", "

end Layout

mutual

def writeAt (l : Layout) (depth : Nat) : Json → Text
  | .null => "null"
  | .bool true => "true"
  | .bool false => "false"
  | .int n => Text.ofInt n
  | .float x => x.write numberFormat
  | .text t => writeText t
  | .list [] => "[]"
  | .list (v :: rest) =>
    '[' :: l.lineBreak (depth + 1) ++ writeAt l (depth + 1) v ++ writeItems l (depth + 1) rest ++
      l.lineBreak depth ++ "]"
  | .object [] => "\x7b\x7d"
  | .object ((name, v) :: rest) =>
    '\x7b' :: l.lineBreak (depth + 1) ++ writeText name ++ ": " ++ writeAt l (depth + 1) v ++
      writeMembers l (depth + 1) rest ++ l.lineBreak depth ++ "\x7d"

/-- The items after the first. -/
def writeItems (l : Layout) (depth : Nat) : List Json → Text
  | [] => []
  | v :: rest => l.between depth ++ writeAt l depth v ++ writeItems l depth rest

/-- The members after the first. -/
def writeMembers (l : Layout) (depth : Nat) : List (Text × Json) → Text
  | [] => []
  | (name, v) :: rest =>
    l.between depth ++ writeText name ++ ": " ++ writeAt l depth v ++ writeMembers l depth rest

end

/-- A value on one line. -/
def write (v : Json) : Text := writeAt ⟨none⟩ 0 v

/-- A value with two spaces of indentation a level. -/
def writeIndented (v : Json) : Text := writeAt ⟨some 2⟩ 0 v

end QueryFence.Json
