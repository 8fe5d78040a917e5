import QueryFence.Text.Blank

/-!
Patterns of comment lines: characters that stand for themselves, white space and any character, each
once or repeated, and the two ends of a line. Groups and classes are not part of the language.
-/

namespace QueryFence

/-- What one character is compared with. -/
inductive CharTest
  | char (c : Char)
  | blank
  | any
deriving DecidableEq, Repr

def CharTest.holds : CharTest → Char → Bool
  | .char c, d => c == d
  | .blank, d => Text.isBlank d
  | .any, d => d != '\n'

inductive PatternItem
  /-- The start of the line. -/
  | start
  /-- The end of the line. -/
  | stop
  | one (test : CharTest)
  | many (test : CharTest)
deriving DecidableEq, Repr

/-- A pattern is met where its items are met one after the other. -/
abbrev Pattern := List PatternItem

namespace Pattern

/-- A character test at the start of a pattern's text. -/
def readTest : Text → Option (CharTest × Text)
  | '\\' :: 's' :: rest => some (.blank, rest)
  | '\\' :: c :: rest => if c.isAlphanum then none else some (.char c, rest)
  | '.' :: rest => some (.any, rest)
  | c :: rest =>
    if c ∈ ['\\', '(', ')', '[', '*', '+', '?', '|'] then none else some (.char c, rest)
  | [] => none

/-- A test with the mark of repetition behind it. -/
def repeated (test : CharTest) : Text → List PatternItem × Text
  | '*' :: rest => ([.many test], rest)
  | '+' :: rest => ([.one test, .many test], rest)
  | rest => ([.one test], rest)

/-- The pattern that a text writes; every item takes a character, so fuel as long as the text is
enough. -/
def readItems : Nat → Text → Option Pattern
  | _, [] => some []
  | 0, _ => none
  | fuel + 1, '^' :: rest => do return .start :: (← readItems fuel rest)
  | fuel + 1, '$' :: rest => do return .stop :: (← readItems fuel rest)
  | fuel + 1, t => do
    let (test, rest) ← readTest t
    let (items, rest) := repeated test rest
    return items ++ (← readItems fuel rest)

def read (t : Text) : Option Pattern := readItems t.length t

/-- Characters that meet a test, as many as it takes for the rest to be met. -/
def repeatUntil (test : CharTest) (rest : Bool → Text → Bool) (atStart : Bool) : Text → Bool
  | [] => rest atStart []
  | c :: t => rest atStart (c :: t) || (test.holds c && repeatUntil test rest false t)

/-- Whether the pattern is met at the start of a text. -/
def meets : Pattern → Bool → Text → Bool
  | [], _, _ => true
  | .start :: p, atStart, t => atStart && meets p atStart t
  | .stop :: p, atStart, t => (t.isEmpty || t = ['\n']) && meets p atStart t
  | .one test :: p, _, c :: t => test.holds c && meets p false t
  | .one _ :: _, _, [] => false
  | .many test :: p, atStart, t => repeatUntil test (meets p) atStart t

/-- Whether the pattern is met anywhere in the text. -/
def findFrom (p : Pattern) (atStart : Bool) : Text → Bool
  | [] => p.meets atStart []
  | c :: t => p.meets atStart (c :: t) || findFrom p false t

def find (p : Pattern) (line : Text) : Bool := p.findFrom true line

end Pattern

end QueryFence
