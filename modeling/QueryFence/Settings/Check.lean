import QueryFence.Text.Blank
import QueryFence.Text.Digit
import QueryFence.Json.Basic

/-!
Checking values against the types of settings. Values of a near kind are converted: a text that
spells a number or a truth value counts as one. All problems are reported together, each with the
path to the value.
-/

namespace QueryFence

/-- One step of the path to a value. -/
inductive PathStep
  | name (name : Text)
  | index (n : Nat)
deriving DecidableEq, Repr

/-- What is wrong with a value. -/
inductive ProblemCause
  | missing
  | notText
  | notInteger
  | unreadInteger
  | integerTooLong
  | fractionalInteger
  | notFinite
  | notFloat
  | unreadFloat
  | notBool
  | unreadBool
  | notList
  | notObject
  | notRecord
  | notListed
  | notMember
  | notGreater
  | refused
deriving DecidableEq, Repr

/-- The code under which a cause is reported. -/
def ProblemCause.code : ProblemCause → Text
  | .missing => "missing"
  | .notText => "string_type"
  | .notInteger => "int_type"
  | .unreadInteger => "int_parsing"
  | .integerTooLong => "int_parsing_size"
  | .fractionalInteger => "int_from_float"
  | .notFinite => "finite_number"
  | .notFloat => "float_type"
  | .unreadFloat => "float_parsing"
  | .notBool => "bool_type"
  | .unreadBool => "bool_parsing"
  | .notList => "list_type"
  | .notObject => "dict_type"
  | .notRecord => "model_type"
  | .notListed => "literal_error"
  | .notMember => "enum"
  | .notGreater => "greater_than"
  | .refused => "value_error"

structure Problem where
  path : List PathStep
  cause : ProblemCause
deriving DecidableEq, Repr

/-- A checked value, or all that is wrong with it. -/
inductive Checked (α : Type) : Type
  | good (value : α)
  | bad (problems : List Problem)

namespace Checked

instance : Applicative Checked where
  pure := .good
  seq f x :=
    match f, x () with
    | .good f, .good a => .good (f a)
    | .good _, .bad problems => .bad problems
    | .bad problems, .good _ => .bad problems
    | .bad first, .bad second => .bad (first ++ second)

def fail (cause : ProblemCause) : Checked α := .bad [⟨[], cause⟩]

/-- The problems of a part of a value, seen from the value. -/
def under (step : PathStep) : Checked α → Checked α
  | .good a => .good a
  | .bad problems => .bad (problems.map fun p => { p with path := step :: p.path })

def toExcept : Checked α → Except (List Problem) α
  | .good a => .ok a
  | .bad problems => .error problems

def text : Json → Checked Text
  | .text t => .good t
  | _ => fail .notText

/-- White space around a number. The separators among the control characters are none. -/
def isMargin (c : Char) : Bool := Text.isBlank c && !(28 ≤ c.toNat && c.toNat ≤ 31)

/-- A text without the white space around a number. -/
def trimMargin (t : Text) : Text := Text.dropEndWhile isMargin (t.dropWhile isMargin)

/-- Whether underscores stand one by one and inside the text. -/
def hasSingleUnderscores (t : Text) : Bool :=
  t.head? != some '_' && t.getLast? != some '_' && !Text.occursIn "__" t

/-- The rest of a number behind zeros and underscores, of which the last one is given: from its first
other digit or its minus sign on, or from the last zero on if a point or nothing follows. -/
def skipZeros (last : Char) : Text → Option Text
  | [] => some [last]
  | c :: rest =>
    if c = '0' || c = '_' then skipZeros c rest
    else if c = '.' then some (last :: c :: rest)
    else if c = '-' || c.isDigit then some (c :: rest)
    else none

/-- A number without leading zeros. -/
def dropZeros : Text → Option Text
  | '0' :: rest => skipZeros '0' rest
  | c :: rest => if c = '-' || c.isDigit then some (c :: rest) else none
  | [] => none

/-- A number without a fraction of zeros. -/
def dropZeroFraction (t : Text) : Text :=
  let (whole, fraction) := Text.partition '.' t
  if !fraction.isEmpty && fraction.all (· == '0') then whole else t

/-- A number without single underscores, if it has no others. -/
def dropUnderscores (t : Text) : Text :=
  if hasSingleUnderscores t then t.filter (· != '_') else t

/-- A number in its plain form: without white space around, a plus sign, leading zeros, a fraction of
zeros and single underscores. -/
def plainInteger (t : Text) : Option Text := do
  let t := trimMargin t
  let size ← match t with
    | '+' :: '-' :: _ => none
    | '+' :: rest => some rest
    | _ => some t
  return dropUnderscores (dropZeroFraction (← dropZeros size))

/-- A whole number in its plain form: a minus sign or none, and digits of which the first one is no
zero unless it is alone. A number that is too long is refused before what follows it is looked at. -/
def readPlainInteger (t : Text) : Checked Int :=
  let (negative, size) := match t with
    | '-' :: rest => (true, rest)
    | _ => (false, t)
  let digits := size.takeWhile Char.isDigit
  if digits.head? = some '0' && digits.length != 1 then fail .unreadInteger
  else if Text.numeralLimit < digits.length + (if negative then 1 else 0) then fail .integerTooLong
  else if !Text.isNumeral size then fail .unreadInteger
  else
    let n : Int := Text.numeralValue size
    .good (if negative then -n else n)

/-- A whole number in a text, as it is or in its plain form. -/
def readInteger (t : Text) : Checked Int :=
  match readPlainInteger t with
  | .good n => .good n
  | .bad problems =>
    if problems = [⟨[], .integerTooLong⟩] then .bad problems
    else
      match plainInteger t with
      | some plain => readPlainInteger plain
      | none => fail .unreadInteger

/-- The bound that the size of a whole number made from a fraction stays under. -/
def sizeLimit : Int := 9223372036854775808

def integer : Json → Checked Int
  | .int n => .good n
  | .bool b => .good (if b then 1 else 0)
  | .float x =>
    match x.toRat?, x.toInt? with
    | none, _ => fail .notFinite
    | _, some n => if -sizeLimit < n ∧ n < sizeLimit then .good n else fail .integerTooLong
    | _, none => fail .fractionalInteger
  | .text t => readInteger t
  | _ => fail .notInteger

/-- A decimal number after its sign. -/
def readDecimal? (negative : Bool) (t : Text) : Option Binary64 :=
  let word := Text.lowerAscii t
  if word = "inf" || word = "infinity" then some (.infinite negative)
  else if word = "nan" then some .nan
  else
    let whole := t.takeWhile Char.isDigit
    let rest := t.dropWhile Char.isDigit
    let (fraction, rest) := match rest with
      | '.' :: more => (more.takeWhile Char.isDigit, more.dropWhile Char.isDigit)
      | _ => ([], rest)
    let number (exponent : Int) := Binary64.ofDecimal negative
      (Text.numeralValue (whole ++ fraction)) (exponent - fraction.length)
    if (whole ++ fraction).isEmpty then none
    else
      match rest with
      | [] => some (number 0)
      | c :: more =>
        if c = 'e' || c = 'E' then
          let (down, digits) := match more with
            | '-' :: digits => (true, digits)
            | '+' :: digits => (false, digits)
            | _ => (false, more)
          if Text.isNumeral digits then
            let n : Int := Text.numeralValue digits
            some (number (if down then -n else n))
          else none
        else none

/-- A decimal number with or without a sign. -/
def readSigned? : Text → Option Binary64
  | '-' :: rest => readDecimal? true rest
  | '+' :: rest => readDecimal? false rest
  | t => readDecimal? false t

/-- A number in a text, with white space around or with underscores in it. -/
def readFloat (t : Text) : Checked Binary64 :=
  match readSigned? (trimMargin t) with
  | some x => .good x
  | none =>
    match if hasSingleUnderscores t then readSigned? (t.filter (· != '_')) else none with
    | some x => .good x
    | none => fail .unreadFloat

def float : Json → Checked Binary64
  | .float x => .good x
  | .int n =>
    match Binary64.ofInt n with
    | .infinite _ => fail .notFloat
    | x => .good x
  | .bool b => .good (Binary64.ofInt (if b then 1 else 0))
  | .text t => readFloat t
  | _ => fail .notFloat

/-- The words for a truth value. -/
def readBool (t : Text) : Checked Bool :=
  let word := Text.lowerAscii t
  if word ∈ (["1", "on", "t", "true", "y", "yes"] : List Text) then .good true
  else if word ∈ (["0", "off", "f", "false", "n", "no"] : List Text) then .good false
  else fail .unreadBool

def boolOfInt (n : Int) : Checked Bool :=
  if n = 1 then .good true else if n = 0 then .good false else fail .unreadBool

def bool : Json → Checked Bool
  | .bool b => .good b
  | .int n => if -sizeLimit ≤ n ∧ n < sizeLimit then boolOfInt n else fail .notBool
  | .float x =>
    match x.toInt? with
    | some n => if -sizeLimit < n ∧ n < sizeLimit then boolOfInt n else fail .notBool
    | none => fail .notBool
  | .text t => readBool t
  | _ => fail .notBool

/-- The items of a list from an index on, each checked by itself. -/
def itemsFrom (check : Json → Checked α) (n : Nat) : List Json → Checked (List α)
  | [] => .good []
  | v :: rest => List.cons <$> (check v).under (.index n) <*> itemsFrom check (n + 1) rest

def list (check : Json → Checked α) : Json → Checked (List α)
  | .list items => itemsFrom check 0 items
  | _ => fail .notList

/-- The members of an object, each value checked by itself. -/
def membersOf (check : Json → Checked α) : List (Text × Json) → Checked (List (Text × α))
  | [] => .good []
  | (name, v) :: rest =>
    (fun a more => (name, a) :: more) <$> (check v).under (.name name) <*> membersOf check rest

/-- A member that may be absent. -/
def optional (members : List (Text × Json)) (name : Text) (default : α)
    (check : Json → Checked α) : Checked α :=
  match members.lookup name with
  | some v => (check v).under (.name name)
  | none => .good default

/-- A member that must be there. -/
def required (members : List (Text × Json)) (name : Text) (check : Json → Checked α) : Checked α :=
  match members.lookup name with
  | some v => (check v).under (.name name)
  | none => (fail .missing).under (.name name)

end Checked

end QueryFence
