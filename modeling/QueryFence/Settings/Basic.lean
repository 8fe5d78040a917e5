import QueryFence.Settings.Check

/-!
Settings: the accounts that are searched, the defaults of search blocks, their grammar, and how long
outcomes are kept.
-/

namespace QueryFence

/-- How an account proves itself. -/
inductive AuthType
  | basic
  | bearer
  | none
deriving DecidableEq, Repr

namespace AuthType

def all : List AuthType := [.basic, .bearer, .none]

def word : AuthType → Text
  | .basic => "basic"
  | .bearer => "bearer"
  | .none => "none"

def ofWord? (word : Text) : Option AuthType := all.find? (·.word = word)

end AuthType

/-- How one account of the search service is reached. -/
structure Account where
  name : Text
  host : Text
  authType : AuthType
  username : Text
  password : Text
  bearerToken : Text
  priority : Int
  color : Text
deriving DecidableEq, Repr

/-- The names of custom fields by their ids. A name is a text unless the service that listed the
fields sent something else. -/
abbrev FieldTable := List (Text × Json)

structure Settings where
  /-- Tried in the order of their priorities. -/
  accounts : List Account
  /-- The limit of blocks that set none. -/
  resultsLimit : Int
  /-- The columns of blocks that list none. -/
  searchColumns : Text
  customFields : FieldTable
  /-- What stands before a compact column. -/
  compactSymbol : Text
  /-- The pattern of lines that are comments. -/
  commentPattern : Text
  showColorBand : Bool
  cacheFolder : Text
  cacheHours : Binary64
  requestTimeout : Binary64
  maxRetries : Int

namespace Settings

def defaultColumns : Text :=
  "KEY, SUMMARY, TYPE, CREATED, UPDATED, REPORTER, ASSIGNEE, PRIORITY, STATUS"

/-- A quarter of an hour. -/
def defaultHours : Binary64 := Binary64.ofQuotient false 1 4

def defaultTimeout : Binary64 := Binary64.ofInt 30

end Settings

namespace Checked

def authType : Json → Checked AuthType
  | .text t =>
    match AuthType.ofWord? t with
    | some a => .good a
    | none => fail .notListed
  | _ => fail .notListed

def account : Json → Checked Account
  | .object members =>
    Account.mk <$> optional members "alias" "Default" text
      <*> required members "host" text
      <*> optional members "auth_type" .basic authType
      <*> optional members "username" [] text
      <*> optional members "password" [] text
      <*> optional members "bearer_token" [] text
      <*> optional members "priority" 1 integer
      <*> optional members "color" "#000000" text
  | _ => fail .notRecord

def fieldTable : Json → Checked FieldTable
  | .object members => membersOf (fun v => Json.text <$> text v) members
  | _ => fail .notObject

end Checked

namespace Settings

/-- The settings of the given members; an absent one has its default. -/
def check (members : List (Text × Json)) : Checked Settings :=
  Settings.mk <$> Checked.optional members "jira_accounts" [] (Checked.list Checked.account)
    <*> Checked.optional members "search_results_limit" 10 Checked.integer
    <*> Checked.optional members "search_columns" defaultColumns Checked.text
    <*> Checked.optional members "custom_fields" [] Checked.fieldTable
    <*> Checked.optional members "compact_symbol" "-" Checked.text
    <*> Checked.optional members "comment_pattern" "^\\s*#" Checked.text
    <*> Checked.optional members "show_color_band" true Checked.bool
    <*> Checked.optional members "cache_dir" "cache" Checked.text
    <*> Checked.optional members "cache_ttl_hours" defaultHours Checked.float
    <*> Checked.optional members "request_timeout" defaultTimeout Checked.float
    <*> Checked.optional members "max_retries" 5 Checked.integer

end Settings

end QueryFence
