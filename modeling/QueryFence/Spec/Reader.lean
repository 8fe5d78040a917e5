import QueryFence.Json.Reader
import QueryFence.Text.CaseMap
import QueryFence.Text.Pattern
import QueryFence.Settings.Fields
import QueryFence.Spec.Basic

/-!
Reading search blocks. A block is read line by line: a line without a value is the query itself, any
other is a key with its value, and later lines override earlier ones.
-/

namespace QueryFence

/-- A mistake of the author of a search block. -/
inductive SpecError
  | invalidType (value : Text)
  | invalidLimit (value : Text)
  | invalidKey (key : Text)
  | invalidColumn (word : Text)
  /-- The sign of an older format stands where the compact symbol should. -/
  | outdatedSymbol (compactSymbol : Text)
  | unknownFieldId (id : Text)
  | unknownFieldName (name : Text)
  | listWithColumns
deriving DecidableEq, Repr

def SpecError.message : SpecError → Text
  | .invalidType value => "Invalid type: " ++ value
  | .invalidLimit value => "Invalid limit: " ++ value
  | .invalidKey key => "Invalid key: " ++ key
  | .invalidColumn word => "Invalid column: " ++ word
  | .outdatedSymbol compactSymbol =>
    "Please replace the symbol \"#\" with \"" ++ compactSymbol ++ "\" to use the compact format"
  | .unknownFieldId id => "Custom field with id " ++ id ++ " not found"
  | .unknownFieldName name => "Custom field with name \"" ++ name ++ "\" not found"
  | .listWithColumns => "type LIST and custom columns are not compatible options"

/-- Why a search block is not read: its author made a mistake, or reading itself broke down. -/
inductive SpecFailure
  | rejected (error : SpecError)
  | fault (fault : Fault)
deriving DecidableEq, Repr

namespace Column

/-- The id of the custom field that a column selects by id or by name. -/
def resolve (table : FieldTable) (selector : Text) : Except SpecFailure Text :=
  if Text.isDigits selector then
    if (table.nameOf? selector).isSome then .ok selector
    else .error (.rejected (.unknownFieldId selector))
  else
    match table.idOf? selector with
    | .error fault => .error (.fault fault)
    | .ok (some id) =>
      if id.isEmpty then .error (.rejected (.unknownFieldName selector)) else .ok id
    | .ok none => .error (.rejected (.unknownFieldName selector))

/-- What a column shows, from its token without the compact symbol. -/
def readContent (settings : Settings) (token : Text) : Except SpecFailure Content :=
  let word := Text.upper token
  if (notesWord ++ ".").isPrefixOf word then .ok (.notes (Text.partition '.' token).2)
  else
    match token with
    | '$' :: selector =>
      match resolve settings.customFields selector with
      | .ok id => .ok (.custom id)
      | .error failure => .error failure
    | _ =>
      if word = notesWord then .ok (.notes [])
      else
        match FieldKind.ofWord? word with
        | some kind => .ok (.field kind)
        | none =>
          .error (.rejected (if ("#" : Text).isPrefixOf word
            then .outdatedSymbol settings.compactSymbol else .invalidColumn word))

/-- The column that a token describes. -/
def read (settings : Settings) (token : Text) : Except SpecFailure Column :=
  let token := Text.trim token
  let compact := settings.compactSymbol.isPrefixOf token
  let bare := if compact then token.drop settings.compactSymbol.length else token
  match readContent settings bare with
  | .ok content => .ok ⟨compact, content⟩
  | .error failure => .error failure

/-- The tokens of a list of columns: what stands between commas, unless it is blank. -/
def tokens (t : Text) : List Text := (t.splitOn ',').filter fun token => !Text.isBlankText token

def readList (settings : Settings) (t : Text) : Except SpecFailure (List Column) :=
  (tokens t).mapM (read settings)

/-- The columns of tables whose blocks list none. -/
def defaults (settings : Settings) : Except SpecFailure (List Column) :=
  readList settings settings.searchColumns

end Column

/-- A positive number in ASCII digits. A numeral beyond the digit limit is not even looked at. -/
def Limit.read (value : Text) : Except SpecFailure Limit :=
  if Text.isNumeral value then
    if Text.numeralLimit < value.length then
      .error (.fault (.badValue (Json.ReadError.message (.numeralTooLong value.length))))
    else if h : 0 < Text.numeralValue value then .ok ⟨Text.numeralValue value, h⟩
    else .error (.rejected (.invalidLimit value))
  else .error (.rejected (.invalidLimit value))

/-- A line of a search block. -/
inductive BlockLine
  /-- A line that is the query itself. -/
  | bare (query : Text)
  | entry (key value : Text)
deriving DecidableEq, Repr

/-- A line is an entry when something stands behind its first colon. -/
def BlockLine.of (line : Text) : BlockLine :=
  let (key, value) := Text.partition ':' line
  if Text.isBlankText value then .bare line else .entry (Text.trim key) (Text.trim value)

namespace Spec

/-- The lines that count: neither blank nor a comment. -/
def effectiveLines (comment : Pattern) (t : Text) : List Text :=
  (Text.lines t).filter fun line => !(Text.isBlankText line || comment.find line)

/-- The specification after an entry. -/
def applyEntry (settings : Settings) (s : Spec) (key value : Text) : Except SpecFailure Spec :=
  let word := Text.lowerAscii key
  if word = "type" then
    match Mode.ofWord? (Text.upper value) with
    | some mode => .ok { s with mode := mode }
    | none => .error (.rejected (.invalidType value))
  else if word = "query" then .ok { s with query := value }
  else if word = "limit" then
    match Limit.read value with
    | .ok limit => .ok { s with limit := some limit }
    | .error failure => .error failure
  else if word = "columns" then
    match Column.readList settings value with
    | .ok columns => .ok { s with columns := columns }
    | .error failure => .error failure
  else .error (.rejected (.invalidKey key))

/-- The specification after a further line. -/
def applyLine (settings : Settings) (s : Spec) (line : Text) : Except SpecFailure Spec :=
  match BlockLine.of line with
  | .bare query => .ok { s with query := query }
  | .entry key value => s.applyEntry settings key value

/-- A list has no columns. -/
def isListWithColumns (s : Spec) : Bool := s.mode = .list && !s.columns.isEmpty

/-- The specification that a search block writes. -/
def read (settings : Settings) (t : Text) : Except SpecFailure Spec :=
  match Pattern.read settings.commentPattern with
  | none => .error (.fault .badPattern)
  | some comment =>
    match (effectiveLines comment t).foldlM (applyLine settings) empty with
    | .error failure => .error failure
    | .ok s => if s.isListWithColumns then .error (.rejected .listWithColumns) else .ok s

end Spec

end QueryFence
