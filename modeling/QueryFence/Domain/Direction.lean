import QueryFence.Text.Mark

/-!
The direction in which the letters of a name are read, and the rule for names that are read from the
right: letters of both directions do not mix, and neither do digits of both kinds.
-/

namespace QueryFence.Domain

inductive Direction
  | fromLeft
  | fromRight
  /-- A digit as in Europe. -/
  | digit
  /-- A digit as in Arabic. -/
  | arabicDigit
  | mark
  | neutral
deriving DecidableEq, Repr

/-- First and last code point of each run of letters that are read from the right. -/
def fromRightRuns : List (Nat × Nat) :=
  [
    (0x5D0, 0x5F4), (0x620, 0x64A), (0x66E, 0x66F), (0x671, 0x6D5), (0x6E5, 0x6E6), (0x6EE, 0x6EF),
    (0x6FA, 0x710), (0x712, 0x72F), (0x74D, 0x7A5), (0x7B1, 0x7EA), (0x7F4, 0x7F5), (0x800, 0x815),
    (0x81A, 0x81A), (0x824, 0x824), (0x828, 0x828), (0x840, 0x858), (0x860, 0x88E), (0x8A0, 0x8C9),
    (0xFE73, 0xFE73), (0x10800, 0x10A00), (0x10A10, 0x10A35), (0x10A60, 0x10AE4),
    (0x10B00, 0x10D23), (0x10E80, 0x10EA9), (0x10EB0, 0x10F45), (0x10F70, 0x10F81),
    (0x10FB0, 0x10FF6), (0x1E800, 0x1E8C4), (0x1E922, 0x1E943), (0x1E94B, 0x1E959)
  ]

/-- First and last code point of each run of characters without a direction. -/
def neutralRuns : List (Nat × Nat) :=
  [
    (0x2D, 0x2D), (0xB7, 0xB7), (0x2B9, 0x2BA), (0x2C6, 0x2CF), (0x2EC, 0x2EC), (0x375, 0x375),
    (0x200C, 0x200D), (0x2E2F, 0x2E2F), (0x30FB, 0x30FB), (0xA67F, 0xA67F), (0xA717, 0xA71F),
    (0xA788, 0xA788)
  ]

/-- Marks that take no room of their own and yet are read from the left. -/
def leftMarks : List Nat := [0xCBF, 0xCC6, 0x11A07, 0x11A08, 0x11C3F]

/-- The direction of a letter of a name. -/
def Direction.of (n : Nat) : Direction :=
  if (0x30 ≤ n && n ≤ 0x39) || (0x6F0 ≤ n && n ≤ 0x6F9) then .digit
  else if (0x660 ≤ n && n ≤ 0x669) || (0x10D30 ≤ n && n ≤ 0x10D39) then .arabicDigit
  else if Text.inRuns neutralRuns n then .neutral
  else if Text.isNonspacing n && !leftMarks.contains n then .mark
  else if Text.inRuns fromRightRuns n then .fromRight
  else .fromLeft

/-- What is wrong with the directions of the letters of a label. -/
inductive DirectionProblem
  /-- The label starts with a letter of no direction while others are read from the right. -/
  | start
  /-- A letter that is read from the left behind one that is read from the right. -/
  | leftBehindRight (position : Nat)
  /-- A letter that is read from the right behind one that is read from the left. -/
  | rightBehindLeft (position : Nat)
  | mixedDigits
  | ending
deriving DecidableEq, Repr

namespace Direction

/-- Whether the directions of a label, of which the first `n` are known to be fine, are right for one
that is read from the right. It may end here if `mayEnd` says so, and `digits` is the kind of its
digits so far. -/
def fromRightProblem (n : Nat) (digits : Option Direction) (mayEnd : Bool) :
    List Direction → Option DirectionProblem
  | [] => if mayEnd then none else some .ending
  | .fromLeft :: _ => some (.leftBehindRight (n + 1))
  | .fromRight :: rest => fromRightProblem (n + 1) digits true rest
  | .mark :: rest => fromRightProblem (n + 1) digits mayEnd rest
  | .neutral :: rest => fromRightProblem (n + 1) digits false rest
  | d :: rest =>
    if digits.all (· == d) then fromRightProblem (n + 1) (some d) true rest
    else some .mixedDigits

/-- Whether the directions of a label, of which the first `n` are known to be fine, are right for one
that is read from the left. -/
def fromLeftProblem (n : Nat) (mayEnd : Bool) : List Direction → Option DirectionProblem
  | [] => if mayEnd then none else some .ending
  | .fromLeft :: rest => fromLeftProblem (n + 1) true rest
  | .digit :: rest => fromLeftProblem (n + 1) true rest
  | .mark :: rest => fromLeftProblem (n + 1) mayEnd rest
  | .neutral :: rest => fromLeftProblem (n + 1) false rest
  | _ :: _ => some (.rightBehindLeft (n + 1))

/-- The first thing that is wrong with the directions of a label. Only where something is read from
the right do they matter. -/
def problem? (directions : List Direction) : Option DirectionProblem :=
  if directions.contains .fromRight || directions.contains .arabicDigit then
    match directions.head? with
    | some .fromRight => fromRightProblem 0 none false directions
    | some .fromLeft => fromLeftProblem 0 false directions
    | _ => some .start
  else none

end Direction

end QueryFence.Domain
