import QueryFence.Jira.Request
import QueryFence.Json.Access
import QueryFence.Json.Body
import QueryFence.Plan

/-!
The client of the search service. Accounts are tried in the order of their priorities until one
answers, and a request that is refused for coming too soon is repeated after a growing pause.
-/

namespace QueryFence

/-- Why a search ends without results. -/
inductive SearchFailure
  /-- No account could run it. -/
  | fetch (message : Text)
  | invalidUrl (message : Text)
  | cookieConflict (message : Text)
  /-- An answer had another shape than the service promises. -/
  | fault (fault : Fault)
  /-- Anything else that a client may report. -/
  | other (message : Text)
deriving DecidableEq, Repr

def SearchFailure.message : SearchFailure → Text
  | .fetch message => message
  | .invalidUrl message => message
  | .cookieConflict message => message
  | .fault f => f.message
  | .other message => message

namespace Jira

/-- What the client asks of the world. -/
inductive Action
  /-- To wait for so many seconds. -/
  | pause (seconds : Binary64)
  | send (request : Request)

abbrev Action.Reply : Action → Type
  | .pause _ => Unit
  | .send _ => Response

/-- Others are let run while the client waits. -/
def Action.waits : Action → Bool
  | .pause _ => true
  | .send _ => false

/-- A program of the client. -/
abbrev ClientPlan (α : Type) := Plan Action Action.Reply (Except SearchFailure α)

structure Client where
  accounts : List Account
  maxRetries : Int
  /-- The length of the first pause that is not zero, in seconds. -/
  backoff : Binary64

/-- The pause before an attempt: none before the first, then twice as long every time. -/
def delay (factor : Binary64) : Nat → Binary64
  | 0 => Binary64.zero false
  | n + 1 => factor.doubled n

/-- The messages that an error body holds, joined by spaces. -/
def joinMessages (messages : Json) : Except Fault Text :=
  match messages with
  | .text t => .ok (Text.joinWith " " (t.map fun c => [c]))
  | .object members => .ok (Text.joinWith " " (members.map (·.1)))
  | .list items => do
    let texts ← items.zipIdx.mapM fun (v, n) =>
      match v with
      | .text t => Except.ok t
      | v => .error (Fault.wrongKind ("sequence item " ++ Text.ofNat n ++
          ": expected str instance, " ++ v.kind.name ++ " found"))
    return Text.joinWith " " texts
  | _ => .error (.wrongKind "can only join an iterable")

/-- The messages of an error body, null where it has none. -/
def errorMessages (body : Text) : Json :=
  match Json.readBody body with
  | .ok v =>
    match v.getD "errorMessages" (.list []) with
    | .ok messages => messages
    | .error _ => .null
  | .error _ => .null

/-- What an error answer tells: its own messages if it has any, or else the whole body. -/
def statusMessage (status : Nat) (body : Text) : Except Fault Text := do
  let messages := errorMessages body
  let told ← if messages.isVoid then pure body else joinMessages messages
  return "Jira returned status " ++ Text.ofNat status ++ ": " ++ told

def requestFailed (reason : Text) : SearchFailure := .fetch ("Request failed: " ++ reason)

/-- What the last response to a request comes to. -/
def conclude (account : Account) : Response → Except SearchFailure Json
  | .timedOut => .error (.fetch ("Request to " ++ account.name ++ " timed out"))
  | .failed reason => .error (requestFailed reason)
  | .invalidUrl message => .error (.invalidUrl message)
  | .cookieConflict message => .error (.cookieConflict message)
  | .answered status body =>
    if 200 ≤ status ∧ status < 300 then
      match Json.readBody body with
      | .ok v => .ok v
      | .error e => .error (requestFailed e.message)
    else
      match statusMessage status body with
      | .ok message => .error (.fetch message)
      | .error fault => .error (.fault fault)

/-- Whether the service asks to come back later. -/
def isRateLimited : Response → Bool
  | .answered 429 _ => true
  | _ => false

/-- So many attempts at a request, numbered from `n`. -/
def attempts (c : Client) (account : Account) (path : Text) (parameters : List (Text × Text)) :
    Nat → Nat → ClientPlan Json
  | 0, _ => .done (.error (.fetch "Maximum retries exceeded for rate limited requests"))
  | left + 1, n =>
    .ask (.pause (delay c.backoff n)) fun _ =>
      match request account path parameters with
      | .error (.invalidUrl message) => .done (.error (.invalidUrl message))
      | .error (.unwritable message) => .done (.error (requestFailed message))
      | .ok r =>
        .ask (.send r) fun response =>
          let response := r.settle response
          if isRateLimited response && left != 0 then
            attempts c account path parameters left (n + 1)
          else .done (conclude account response)

/-- The largest number of attempts that can be counted. -/
def countLimit : Int := 9223372036854775807

/-- What a number of attempts that cannot be counted off is told. One that does not fit into a
machine word, and the number just below zero, are told to be no stop; other negative ones are told
to be no index. -/
def countFault (count : Int) : Fault :=
  let subject : Text := if -countLimit - 1 ≤ count ∧ count < -1 then "Indices" else "Stop argument"
  .badValue (subject ++ " for islice() must be None or an integer: 0 <= x <= sys.maxsize.")

/-- The answer of an account to a request. -/
def get (c : Client) (account : Account) (path : Text) (parameters : List (Text × Text)) :
    ClientPlan Json :=
  let count := c.maxRetries + 1
  if 0 ≤ count ∧ count ≤ countLimit then attempts c account path parameters count.toNat 0
  else .done (.error (.fault (countFault count)))

/-- The accounts by ascending priority, equal ones in the order they are listed in. -/
def ranked (accounts : List Account) : List Account :=
  accounts.mergeSort fun a b => a.priority ≤ b.priority

def searchPath : Text := "/rest/api/2/search"

def fieldsPath : Text := "/rest/api/2/field"

/-- The parameter that holds the query. -/
def queryName : Text := "jql"

def searchParameters (query : Text) (limit : Int) : List (Text × Text) :=
  [(queryName, query), ("maxResults", Text.ofInt limit), ("startAt", "0")]

/-- The results in an answer, with the account that gave it. -/
def resultsOf (account : Account) (data : Json) : Except Fault Json := do
  let issues ← data.getD "issues" (.list [])
  let total ← data.getD "total" (.int 0)
  return .object [("issues", issues), ("total", total),
    ("account", .object [("alias", .text account.name), ("host", .text account.host),
      ("color", .text account.color)])]

/-- Tries accounts one after the other; `last` is the failure of the one before. -/
def searchIn (c : Client) (query : Text) (limit : Int) (last : SearchFailure) :
    List Account → ClientPlan Json
  | [] => .done (.error last)
  | account :: rest =>
    (get c account searchPath (searchParameters query limit)).andThen fun
      | .ok data =>
        match resultsOf account data with
        | .ok results => .done (.ok results)
        | .error fault => .done (.error (.fault fault))
      | .error (.fetch message) => searchIn c query limit (.fetch message) rest
      | .error failure => .done (.error failure)

def noAccount : SearchFailure := .fetch "No Jira account configured"

/-- The results of a search. -/
def search (c : Client) (query : Text) (limit : Int) : ClientPlan Json :=
  match ranked c.accounts with
  | [] => .done (.error noAccount)
  | accounts => searchIn c query limit noAccount accounts

/-- Adds a field to the table if it is a custom one with an id. -/
def addField (table : FieldTable) (field : Json) : Except Fault FieldTable := do
  if (← field.getD "custom" .null).isVoid then return table
  else if ← (← field.getD "schema" (.object [])).contains "customId" then
    let name ← field.item "name"
    let id ← (← field.item "schema").item "customId"
    return Assoc.put id.display name table
  else return table

/-- The custom fields among the fields of the service. -/
def fieldTable (fields : Json) : Except Fault FieldTable := do
  (← fields.items).foldlM addField []

/-- The custom fields that the first account knows. -/
def customFields (c : Client) : ClientPlan FieldTable :=
  match ranked c.accounts with
  | [] => .done (.error noAccount)
  | account :: _ =>
    (get c account fieldsPath []).andThen fun
      | .ok fields =>
        match fieldTable fields with
        | .ok table => .done (.ok table)
        | .error fault => .done (.error (.fault fault))
      | .error failure => .done (.error failure)

/-- The client of some settings. -/
def Client.of (settings : Settings) (backoff : Binary64) : Client :=
  ⟨settings.accounts, settings.maxRetries, backoff⟩

/-- The pause that is taken unless another one is asked for. -/
def usualBackoff : Binary64 := Binary64.ofInt 1

/-- The custom fields to complete settings with: none where they list fields or name no account, and
none where the service does not tell. -/
def discover (settings : Settings) : ClientPlan (Option FieldTable) :=
  if settings.customFields.isEmpty && !settings.accounts.isEmpty then
    (customFields (Client.of settings usualBackoff)).andThen fun
      | .ok table => .done (.ok (some table))
      | .error (.fetch _) => .done (.ok none)
      | .error failure => .done (.error failure)
  else .done (.ok none)

/-- The settings with the custom fields that were found. -/
def complete (settings : Settings) : Option FieldTable → Settings
  | some table => { settings with customFields := table }
  | none => settings

end Jira

end QueryFence
