import QueryFence.Encoding.Wide
import QueryFence.Text.Digit
import QueryFence.Json.Basic

/-!
Reading JSON. A text that is not JSON is refused with the place where reading stopped and what was
looked for there.
-/

namespace QueryFence.Json

/-- What was wrong at the place where reading stopped. -/
inductive ReadCause
  | value
  | memberName
  | colon
  | comma
  | extraData
  | escape
  | unicodeEscape
  | unterminated
  | controlCharacter
deriving DecidableEq, Repr

def ReadCause.message : ReadCause → Text
  | .value => "Expecting value"
  | .memberName => "Expecting property name enclosed in double quotes"
  | .colon => "Expecting ':' delimiter"
  | .comma => "Expecting ',' delimiter"
  | .extraData => "Extra data"
  | .escape => "Invalid \\escape"
  | .unicodeEscape => "Invalid \\uXXXX escape"
  | .unterminated => "Unterminated string starting at"
  | .controlCharacter => "Invalid control character at"

/-- Why reading stopped: at which rest of the text, or at an integer with too many digits. -/
inductive Stop
  | malformed (cause : ReadCause) (rest : Text)
  | numeralTooLong (digits : Nat)

/-- Why a text is not read. -/
inductive ReadError
  | malformed (cause : ReadCause) (line column offset : Nat)
  | numeralTooLong (digits : Nat)
deriving DecidableEq, Repr

def ReadError.message : ReadError → Text
  | .malformed cause line column offset =>
    cause.message ++ ": line " ++ Text.ofNat line ++ " column " ++ Text.ofNat column ++
      " (char " ++ Text.ofNat offset ++ ")"
  | .numeralTooLong digits =>
    "Exceeds the limit (" ++ Text.ofNat Text.numeralLimit ++
      " digits) for integer string conversion: value has " ++ Text.ofNat digits ++
      " digits; use sys.set_int_max_str_digits() to increase the limit"

/-- What is read of a text, and the rest of it. -/
abbrev Step (α : Type) := Except Stop (α × Text)

/-- The white space of JSON. -/
def isSpace (c : Char) : Bool := c = ' ' || c = '\t' || c = '\n' || c = '\r'

def skipSpace (t : Text) : Text := t.dropWhile isSpace

/-- The character that a letter behind a backslash stands for. -/
def simpleEscape? : Char → Option Char
  | '"' => some '"'
  | '\\' => some '\\'
  | '/' => some '/'
  | 'b' => some '\x08'
  | 'f' => some '\x0c'
  | 'n' => some '\n'
  | 'r' => some '\r'
  | 't' => some '\t'
  | _ => none

/-- The code units of a string after its opening quote, up to the closing one. -/
def readUnits (opening : Text) : Text → Step (List Nat)
  | [] => .error (.malformed .unterminated opening)
  | '"' :: rest => .ok ([], rest)
  | '\\' :: rest =>
    match rest with
    | [] => .error (.malformed .unterminated opening)
    | 'u' :: a :: b :: c :: d :: e :: more =>
      match Text.hexValue? [a, b, c, d] with
      | some n =>
        match readUnits opening (e :: more) with
        | .ok (units, after) => .ok (n :: units, after)
        | .error stop => .error stop
      | none => .error (.malformed .unicodeEscape rest)
    | letter :: more =>
      match simpleEscape? letter with
      | some s =>
        match readUnits opening more with
        | .ok (units, after) => .ok (s.toNat :: units, after)
        | .error stop => .error stop
      | none =>
        .error (if letter = 'u' then .malformed .unicodeEscape rest
          else .malformed .escape ('\\' :: rest))
  | c :: rest =>
    if c.toNat < 0x20 then .error (.malformed .controlCharacter (c :: rest))
    else
      match readUnits opening rest with
      | .ok (units, after) => .ok (c.toNat :: units, after)
      | .error stop => .error stop

/-- A string after its opening quote. -/
def readString (opening rest : Text) : Step Text :=
  match readUnits opening rest with
  | .ok (units, after) => .ok (Wide.ofUnits units, after)
  | .error stop => .error stop

/-- The digits of a fraction, if a point with at least one digit behind it comes next. -/
def splitFraction : Text → Option Text × Text
  | '.' :: rest =>
    if (rest.takeWhile Char.isDigit).isEmpty then (none, '.' :: rest)
    else (some (rest.takeWhile Char.isDigit), rest.dropWhile Char.isDigit)
  | rest => (none, rest)

/-- The exponent, if one with at least one digit comes next. -/
def splitExponent (t : Text) : Option Int × Text :=
  match t with
  | c :: rest =>
    if c = 'e' || c = 'E' then
      let (negative, digits) := match rest with
        | '-' :: more => (true, more)
        | '+' :: more => (false, more)
        | _ => (false, rest)
      if (digits.takeWhile Char.isDigit).isEmpty then (none, t)
      else
        let size : Int := Text.numeralValue (digits.takeWhile Char.isDigit)
        (some (if negative then -size else size), digits.dropWhile Char.isDigit)
    else (none, t)
  | [] => (none, t)

/-- Whether a minus sign comes first, and what follows it. -/
def splitSign : Text → Bool × Text
  | '-' :: rest => (true, rest)
  | t => (false, t)

/-- The digits of a whole number. Nothing but a zero starts with one. -/
def wholePart : Text → Text
  | '0' :: _ => ['0']
  | t => t.takeWhile Char.isDigit

/-- A number: an integer unless a fraction or an exponent follows its whole part. -/
def readNumber (t : Text) : Step Json :=
  let (negative, digits) := splitSign t
  let whole := wholePart digits
  if whole.isEmpty then .error (.malformed .value t)
  else
    let (fraction, rest) := splitFraction (digits.drop whole.length)
    let (exponent, rest) := splitExponent rest
    if fraction.isNone && exponent.isNone then
      if Text.numeralLimit < whole.length then .error (.numeralTooLong whole.length)
      else
        let size : Int := Text.numeralValue whole
        .ok (.int (if negative then -size else size), rest)
    else
      let behind := fraction.getD []
      .ok (.float (Binary64.ofDecimal negative (Text.numeralValue (whole ++ behind))
        (exponent.getD 0 - behind.length)), rest)

/-- The values written as words. -/
def literals : List (Text × Json) :=
  [("null", .null), ("true", .bool true), ("false", .bool false), ("NaN", .float .nan),
    ("Infinity", .float (.infinite false)), ("-Infinity", .float (.infinite true))]

/-- A word or a number. -/
def readScalar (t : Text) : Step Json :=
  match literals.find? fun literal => literal.1.isPrefixOf t with
  | some (word, v) => .ok (v, t.drop word.length)
  | none => readNumber t

mutual

/-- One value at the start of a text. Every level takes a character and two units of fuel, so twice
the length of the text and one more is enough. -/
def readValue : Nat → Text → Step Json
  | 0, t => .error (.malformed .value t)
  | fuel + 1, t =>
    match t with
    | '"' :: rest =>
      match readString t rest with
      | .ok (s, after) => .ok (.text s, after)
      | .error stop => .error stop
    | '\x7b' :: rest =>
      match skipSpace rest with
      | '\x7d' :: after => .ok (.object [], after)
      | inside =>
        match readMembers fuel inside with
        | .ok (written, after) => .ok (.object (membersOf written), after)
        | .error stop => .error stop
    | '[' :: rest =>
      match skipSpace rest with
      | ']' :: after => .ok (.list [], after)
      | inside =>
        match readItems fuel inside with
        | .ok (items, after) => .ok (.list items, after)
        | .error stop => .error stop
    | _ => readScalar t

/-- The items of a list up to its closing bracket, at least one. -/
def readItems : Nat → Text → Step (List Json)
  | 0, t => .error (.malformed .value t)
  | fuel + 1, t =>
    match readValue fuel t with
    | .error stop => .error stop
    | .ok (v, rest) =>
      match skipSpace rest with
      | ']' :: after => .ok ([v], after)
      | ',' :: after =>
        match readItems fuel (skipSpace after) with
        | .ok (items, after) => .ok (v :: items, after)
        | .error stop => .error stop
      | other => .error (.malformed .comma other)

/-- The members of an object up to its closing brace, at least one. -/
def readMembers : Nat → Text → Step (List (Text × Json))
  | 0, t => .error (.malformed .memberName t)
  | fuel + 1, t =>
    match t with
    | '"' :: rest =>
      match readString t rest with
      | .error stop => .error stop
      | .ok (name, rest) =>
        match skipSpace rest with
        | ':' :: rest =>
          match readValue fuel (skipSpace rest) with
          | .error stop => .error stop
          | .ok (v, rest) =>
            match skipSpace rest with
            | '\x7d' :: after => .ok ([(name, v)], after)
            | ',' :: after =>
              match readMembers fuel (skipSpace after) with
              | .ok (members, after) => .ok ((name, v) :: members, after)
              | .error stop => .error stop
            | other => .error (.malformed .comma other)
        | other => .error (.malformed .colon other)
    | _ => .error (.malformed .memberName t)

end

/-- The error for reading that stopped before a rest of the text. -/
def Stop.locate (whole : Text) : Stop → ReadError
  | .numeralTooLong digits => .numeralTooLong digits
  | .malformed cause rest =>
    let before := whole.take (whole.length - rest.length)
    let column := (before.reverse.takeWhile (· != '\n')).length + 1
    .malformed cause (before.count '\n' + 1) column before.length

/-- The value that a text holds, with nothing but white space around it. -/
def read (t : Text) : Except ReadError Json :=
  match readValue (2 * t.length + 1) (skipSpace t) with
  | .error stop => .error (stop.locate t)
  | .ok (v, rest) =>
    match skipSpace rest with
    | [] => .ok v
    | other => .error ((Stop.malformed .extraData other).locate t)

end QueryFence.Json
