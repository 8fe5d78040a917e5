import QueryFence.Assoc
import QueryFence.Text.Blank

/-!
Files of variables: one name and value a line, the value bare, in single or in double quotes, with
comments, and with the values of other variables where their names stand in braces. A line that is
not understood counts for nothing.
-/

namespace QueryFence.VariableFile

/-- White space within a line. -/
def isPad (c : Char) : Bool := Text.isBlank c && c != '\n'

def skipPads (t : Text) : Text := t.dropWhile isPad

/-- What follows the line. -/
def skipLine (t : Text) : Text := (t.dropWhile (· != '\n')).drop 1

/-- The text up to the quote that closes it, and what follows. A quote behind a backslash closes it
only if no other one does; a backslash behind a backslash takes that meaning from it. -/
def closeQuote (quote : Char) : Text → Option (Text × Text)
  | [] => none
  | '\\' :: c :: rest =>
    if c = '\\' then (closeQuote quote rest).map fun (t, after) => ('\\' :: c :: t, after)
    else if c = quote then
      match closeQuote quote rest with
      | some (t, after) => some ('\\' :: c :: t, after)
      | none => some (['\\'], rest)
    else (closeQuote quote (c :: rest)).map fun (t, after) => ('\\' :: t, after)
  | c :: rest =>
    if c = quote then some ([], rest)
    else (closeQuote quote rest).map fun (t, after) => (c :: t, after)

/-- A text with the characters that letters behind backslashes stand for. -/
def unescape (letters : Char → Option Char) : Text → Text
  | [] => []
  | '\\' :: c :: rest =>
    match letters c with
    | some d => d :: unescape letters rest
    | none => '\\' :: unescape letters (c :: rest)
  | c :: rest => c :: unescape letters rest

/-- The escapes between single quotes. -/
def singleLetters (c : Char) : Option Char := if c = '\\' || c = '\'' then some c else none

/-- The escapes between double quotes. -/
def doubleLetters : Char → Option Char
  | 'n' => some '\n'
  | 'r' => some '\r'
  | 't' => some '\t'
  | 'a' => some '\x07'
  | 'b' => some '\x08'
  | 'f' => some '\x0c'
  | 'v' => some '\x0b'
  | '"' => some '"'
  | c => singleLetters c

/-- A bare value without a comment, which starts behind white space. -/
def dropComment : Text → Text
  | [] => []
  | c :: rest =>
    if Text.isBlank c && (Text.trimStart rest).head? = some '#' then [] else c :: dropComment rest

/-- A value behind white space, and what follows it; `none` where a quote is never closed. A comment
behind white space leaves the value empty. -/
def readValue (padded : Bool) : Text → Option (Text × Text)
  | '\'' :: rest =>
    (closeQuote '\'' rest).map fun (t, after) => (unescape singleLetters t, after)
  | '"' :: rest =>
    (closeQuote '"' rest).map fun (t, after) => (unescape doubleLetters t, after)
  | t =>
    if padded && t.head? = some '#' then some ([], t)
    else some (Text.trimEnd (dropComment (t.takeWhile (· != '\n'))), t.dropWhile (· != '\n'))

def isNameEnd (c : Char) : Bool := Text.isBlank c || c = '=' || c = '#'

/-- A name, bare or in single quotes, and what follows it; a name is not empty. -/
def readName : Text → Option (Text × Text)
  | '\'' :: rest =>
    match rest.takeWhile (· != '\''), rest.dropWhile (· != '\'') with
    | c :: more, _ :: after => some (c :: more, after)
    | _, _ => none
  | t =>
    match t.takeWhile (!isNameEnd ·) with
    | [] => none
    | name => some (name, t.dropWhile (!isNameEnd ·))

/-- A line without the word that marks a variable for export. -/
def skipExport (t : Text) : Text :=
  let word := "export".toList
  let rest := t.drop word.length
  if word.isPrefixOf t && rest.head?.any isPad then skipPads rest else t

/-- Whether nothing more stands on the line but a comment. -/
def endsLine (t : Text) : Bool :=
  match skipPads t with
  | [] => true
  | c :: _ => c = '\n' || c = '#'

/-- The variable on a line, without a value where no equals sign follows its name, and what follows
the line. -/
def readLine (t : Text) : Option (Text × Option Text) × Text :=
  let t := skipExport t
  match readName t with
  | none => (none, skipLine t)
  | some (name, rest) =>
    match skipPads rest with
    | '=' :: rest =>
      match readValue (rest.head?.any isPad) (skipPads rest) with
      | none => (none, skipLine rest)
      | some (value, rest) =>
        (if endsLine rest then some (name, some value) else none, skipLine rest)
    | rest => (if endsLine rest then some (name, none) else none, skipLine rest)

/-- The variables of a text, as they are written. Fuel as long as the text is enough. -/
def readLines : Nat → Text → List (Text × Option Text)
  | 0, _ => []
  | fuel + 1, t =>
    match Text.trimStart t with
    | [] => []
    | line =>
      match readLine line with
      | (some found, rest) => found :: readLines fuel rest
      | (none, rest) => readLines fuel rest

/-- The name that stands in braces, what is taken where the variable is not set, and what follows
the braces. -/
def readReference (t : Text) : Option (Text × Text × Text) :=
  let isEnd (c : Char) : Bool := c = '\x7d' || c = ':'
  let name := t.takeWhile (!isEnd ·)
  match t.dropWhile (!isEnd ·) with
  | '\x7d' :: after => some (name, [], after)
  | ':' :: '-' :: rest =>
    match rest.dropWhile (· != '\x7d') with
    | _ :: after => some (name, rest.takeWhile (· != '\x7d'), after)
    | [] => none
  | _ => none

/-- A text with the values of variables in the place of their names in braces behind a dollar sign.
Fuel as long as the text is enough. -/
def expand (value : Text → Option Text) : Nat → Text → Text
  | 0, t => t
  | _ + 1, [] => []
  | fuel + 1, '$' :: '\x7b' :: rest =>
    match readReference rest with
    | some (name, default, after) => (value name).getD default ++ expand value fuel after
    | none => '$' :: expand value fuel ('\x7b' :: rest)
  | fuel + 1, c :: rest => c :: expand value fuel rest

/-- The value that a name in braces stands for: that of an earlier line, or else that of the
environment. A variable without a value stands for nothing. -/
def valueOf (environment : List (Text × Text)) (known : List (Text × Option Text)) (name : Text) :
    Option Text :=
  match known.lookup name with
  | some value => some (value.getD [])
  | none => environment.lookup name

/-- A text without a byte order mark in front. -/
def dropOrderMark : Text → Text
  | '\uFEFF' :: rest => rest
  | t => t

/-- The variables of a text with their values, in small letters. Of names that differ in case alone
the last one counts. -/
def read (environment : List (Text × Text)) (t : Text) : List (Text × Text) :=
  let t := dropOrderMark t
  let written := (readLines (t.length + 1) t).foldl (fun known (name, value) =>
    Assoc.put name (value.map fun v => expand (valueOf environment known) v.length v) known) []
  let known := written.foldl (fun known (name, value) => Assoc.put (Text.lowerAscii name) value known) []
  known.filterMap fun (name, value) => value.map fun v => (name, v)

end QueryFence.VariableFile
