import QueryFence.Text.Digit

/-!
The commands: rendering and formatting a document, clearing the cache, and listing custom fields; and
how they are read from arguments.
-/

namespace QueryFence

inductive Command
  | render (file : Text) (refresh : Bool)
  | format (file : Text) (write : Bool)
  | clearCache
  | fields
deriving DecidableEq, Repr

namespace Command

/-- What an argument is to a command that has one flag. -/
inductive Argument
  | value (t : Text)
  | flag
  | unknown
deriving DecidableEq, Repr

/-- One or more digits of any scripts. -/
def isNumber (t : Text) : Bool := !t.isEmpty && t.all fun c => (Text.digitValue? c).isSome

/-- A text without the line feed at its end. -/
def dropLastFeed (t : Text) : Text := if t.getLast? = some '\n' then t.dropLast else t

/-- A negative number, which is no option. -/
def isNegativeNumber (t : Text) : Bool :=
  match dropLastFeed t with
  | '-' :: rest =>
    let (whole, fraction) := Text.partition '.' rest
    if rest.contains '.' then (whole.isEmpty || isNumber whole) && isNumber fraction
    else isNumber rest
  | _ => false

/-- The long options of a command that has one flag. -/
def options (flag : Text) : List Text := ["--help", flag]

/-- The long options that an argument may mean: an option may be cut short, and a value may follow
an equals sign. -/
def meantOptions (flag t : Text) : List Text :=
  if ("--" : Text).isPrefixOf t then
    (options flag).filter fun option => (Text.partition '=' t).1.isPrefixOf option
  else []

/-- What an argument is. An option is cut short only as long as it is no other one, and takes no
value. -/
def classify (flag t : Text) : Argument :=
  if t = flag then .flag
  else if !("-" : Text).isPrefixOf t || t = "-" then .value t
  else if !(meantOptions flag t).isEmpty then
    if meantOptions flag t = [flag] && !t.contains '=' then .flag else .unknown
  else if ("-h" : Text).isPrefixOf t then .unknown
  else if isNegativeNumber t || t.contains ' ' then .value t
  else .unknown

/-- The file and the flag among the arguments of a command. Behind two hyphens all arguments are
values; with nothing behind them they must follow the file. -/
def readFile (flag : Text) (arguments : List Text) : Option (Text × Bool) :=
  let marker := "--".toList
  let before := (arguments.takeWhile (· != marker)).map (classify flag)
  let behind := (arguments.dropWhile (· != marker)).drop 1
  let values := before.filterMap fun
    | .value t => some t
    | _ => none
  let closesWell := behind != [] || !arguments.contains marker ||
    match before.getLast? with
    | some (.value _) => true
    | _ => false
  match values ++ behind with
  | [file] =>
    if before.contains .unknown || !closesWell then none else some (file, before.contains .flag)
  | _ => none

/-- The command that arguments give; `none` where they are not understood. -/
def read : List Text → Option Command
  | [] => none
  | name :: arguments =>
    if name = "render" then (readFile "--refresh" arguments).map fun (f, b) => .render f b
    else if name = "format" then (readFile "--write" arguments).map fun (f, b) => .format f b
    else if name = "clear-cache" then (if arguments.isEmpty then some .clearCache else none)
    else if name = "fields" then (if arguments.isEmpty then some .fields else none)
    else none

end Command

end QueryFence
