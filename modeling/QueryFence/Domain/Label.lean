import QueryFence.Domain.Direction
import QueryFence.Domain.Joining
import QueryFence.Domain.Letter
import QueryFence.Domain.Script
import QueryFence.Text.Composition
import QueryFence.Text.Quoted

/-!
Labels of domain names. A label is composed, keeps its hyphens to the places where they stand for
nothing else, starts with no mark and holds letters only, but for a few characters that need the right
neighbours.
-/

namespace QueryFence.Domain

/-- What is wrong with a label. -/
inductive LabelProblem
  | empty
  | notComposed
  | markingHyphens
  | outerHyphen
  | startsWithMark
  /-- A joiner between characters that it does not join. -/
  | joiner (code position : Nat)
  /-- A character that would need other ones around it. -/
  | misplaced (code position : Nat)
  | noLetter (code position : Nat)
  | direction (problem : DirectionProblem)
deriving DecidableEq, Repr

/-- A code point as a message names it. -/
def codeName (n : Nat) : Text := "U+" ++ (Text.hex 4 n).map Char.toUpper

/-- A label between quotes. A code point that is no character is written as its number. -/
def quotedLabel (label : List Nat) : Text :=
  let quote := Text.quoteFor (label.map Char.ofNat)
  quote :: label.flatMap (fun n =>
    if n.isValidChar then Text.escapeIn quote (Char.ofNat n) else '\\' :: 'u' :: Text.hex 4 n) ++
    [quote]

def DirectionProblem.message (label : List Nat) : DirectionProblem → Text
  | .start => "First codepoint in label " ++ quotedLabel label ++ " must be directionality L, R or AL"
  | .leftBehindRight position => "Invalid direction for codepoint at position " ++
      Text.ofNat position ++ " in a right-to-left label"
  | .rightBehindLeft position => "Invalid direction for codepoint at position " ++
      Text.ofNat position ++ " in a left-to-right label"
  | .mixedDigits => "Can not mix numeral types in a right-to-left label"
  | .ending => "Label ends with illegal codepoint directionality"

/-- The message on a problem of a label. -/
def LabelProblem.message (label : List Nat) : LabelProblem → Text
  | .empty => "Empty Label"
  | .notComposed => "Label must be in Normalization Form C"
  | .markingHyphens => "Label has disallowed hyphens in 3rd and 4th position"
  | .outerHyphen => "Label must not start or end with a hyphen"
  | .startsWithMark => "Label begins with an illegal combining character"
  | .joiner code position => "Unknown codepoint adjacent to joiner " ++ codeName code ++
      " at position " ++ Text.ofNat position ++ " in " ++ quotedLabel label
  | .misplaced code position => "Codepoint " ++ codeName code ++ " not allowed at position " ++
      Text.ofNat position ++ " in " ++ quotedLabel label
  | .noLetter code position => "Codepoint " ++ codeName code ++ " at position " ++
      Text.ofNat position ++ " of " ++ quotedLabel label ++ " not allowed"
  | .direction problem => problem.message label

/-- The class of the marks that take the vowel from a letter. -/
def vowelKiller : Nat := 9

/-- Whether a joiner may stand between characters, of which those before it come in reverse order. -/
def mayJoin (code : Nat) (before behind : List Nat) : Bool :=
  before.head?.any (Text.combiningClass · == vowelKiller) ||
    (code == 0x200C && meets joinsOn before && meets joinsBack behind)

def isArabicDigit (n : Nat) : Bool := 0x660 ≤ n && n ≤ 0x669

def isFurtherArabicDigit (n : Nat) : Bool := 0x6F0 ≤ n && n ≤ 0x6F9

/-- Whether a character that needs others around it has them, if it is such a character. -/
def isPlaced? (label : List Nat) (code : Nat) (before behind : List Nat) : Option Bool :=
  if code = 0xB7 then some (before.head? == some 0x6C && behind.head? == some 0x6C)
  else if code = 0x375 then some (behind.head?.any isGreek)
  else if code = 0x5F3 || code = 0x5F4 then some (before.head?.any isHebrew)
  else if code = 0x30FB then some (label.any isJapanese)
  else if isArabicDigit code then some (!label.any isFurtherArabicDigit)
  else if isFurtherArabicDigit code then some (!label.any isArabicDigit)
  else none

/-- What is wrong with the characters of a label behind some others, which come in reverse order. -/
def codeProblem? (label before : List Nat) : List Nat → Option LabelProblem
  | [] => none
  | code :: behind =>
    let position := before.length + 1
    if isLetter code then codeProblem? label (code :: before) behind
    else if code = 0x200C || code = 0x200D then
      if mayJoin code before behind then codeProblem? label (code :: before) behind
      else some (.joiner code position)
    else
      match isPlaced? label code before behind with
      | some true => codeProblem? label (code :: before) behind
      | some false => some (.misplaced code position)
      | none => some (.noLetter code position)

/-- A hyphen. -/
def hyphen : Nat := 0x2D

/-- The first thing that is wrong with a label. -/
def labelProblem? (label : List Nat) : Option LabelProblem :=
  if label.isEmpty then some .empty
  else if !Text.isComposed label then some .notComposed
  else if (label.drop 2).take 2 == [hyphen, hyphen] then some .markingHyphens
  else if label.head? == some hyphen || label.getLast? == some hyphen then some .outerHyphen
  else if label.head?.any Text.isMark then some .startsWithMark
  else
    match codeProblem? label [] label with
    | some problem => some problem
    | none => (Direction.problem? (label.map Direction.of)).map .direction

end QueryFence.Domain
