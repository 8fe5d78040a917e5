import QueryFence.Encoding.Base64
import QueryFence.Encoding.Form
import QueryFence.Jira.Endpoint
import QueryFence.Text.Blank
import QueryFence.Settings.Basic

/-!
Requests of the search service, and who makes them: every request carries the authorization of the
account it is made for.
-/

namespace QueryFence.Jira

structure Request where
  endpoint : Endpoint
  /-- The host as it is shown. -/
  host : Text
  accept : Text
  authorization : Option Text
deriving DecidableEq, Repr

def Request.query (r : Request) : Text := r.endpoint.query.getD []

/-- Path and query. -/
def Request.target (r : Request) : Text :=
  r.endpoint.path ++ (r.endpoint.query.map ('?' :: ·)).getD []

/-- What comes back for a request. -/
inductive Response
  | answered (status : Nat) (body : Text)
  | timedOut
  /-- The connection failed, for the reason told. -/
  | failed (reason : Text)
  /-- The address was refused before a connection was made. -/
  | invalidUrl (message : Text)
  | cookieConflict (message : Text)
deriving DecidableEq, Repr

/-- Why no answer to a request can be taken: its address has no scheme, or what stands in brackets
before the first closing one is no address, as the name of a zone starts with such a bracket. -/
def Request.refusal? (r : Request) : Option Text :=
  if r.endpoint.scheme.isEmpty then some ("unknown url type: " ++ Text.quoted r.target)
  else
    match Text.partition '%' r.endpoint.host with
    | (address, ']' :: _) =>
      if address.contains ':' then
        some (Text.quoted (address ++ ['%']) ++ " does not appear to be an IPv4 or IPv6 address")
      else none
    | _ => none

/-- The response as it is taken. -/
def Request.settle (r : Request) : Response → Response
  | .answered status body =>
    match r.refusal? with
    | some reason => .failed reason
    | none => .answered status body
  | response => response

/-- Name and password of basic authorization. -/
def basicHeader (username password : Text) : Text :=
  "Basic " ++ Base64.encode (Text.utf8 (username ++ ':' :: password))

/-- The authorization of an account. Without one of its own that counts more, the user of the
address is taken. -/
def authorization (account : Account) (endpoint : Endpoint) : Option Text :=
  match account.authType, endpoint.user with
  | .basic, _ => some (basicHeader account.username account.password)
  | .bearer, none => some ("Bearer " ++ account.bearerToken)
  | .none, none => none
  | _, some (username, password) => some (basicHeader username password)

/-- Why a request cannot be written. -/
inductive RequestError
  | invalidUrl (message : Text)
  /-- A header that is not ASCII, or a host that cannot be shown. -/
  | unwritable (message : Text)
deriving DecidableEq, Repr

/-- A character that is not ASCII, as the message on it shows it. -/
def escapeNonAscii (c : Char) : Text :=
  if c.toNat < 0x100 then '\\' :: 'x' :: Text.hex 2 c.toNat
  else if c.toNat < 0x10000 then '\\' :: 'u' :: Text.hex 4 c.toNat
  else '\\' :: 'U' :: Text.hex 8 c.toNat

/-- The message on the first run of characters of a text that are not ASCII. -/
def asciiProblem (t : Text) : Option Text :=
  let start := (t.takeWhile fun c => c.toNat < 128).length
  match (t.drop start).takeWhile fun c => !decide (c.toNat < 128) with
  | [] => none
  | [c] =>
    some ("'ascii' codec can't encode character '" ++ escapeNonAscii c ++ "' in position " ++
      Text.ofNat start ++ ": ordinal not in range(128)")
  | run =>
    some ("'ascii' codec can't encode characters in position " ++ Text.ofNat start ++ "-" ++
      Text.ofNat (start + run.length - 1) ++ ": ordinal not in range(128)")

/-- The header that a bearer token is sent in. -/
def bearerHeader (account : Account) : Text :=
  match account.authType with
  | .bearer => "Bearer " ++ account.bearerToken
  | _ => []

/-- The URL of a path of an account's service. -/
def url (account : Account) (path : Text) : Text :=
  Text.dropEndWhile (· = '/') account.host ++ path

/-- The address with parameters, if there are any, in the place of its query. -/
def withParameters (endpoint : Endpoint) : List (Text × Text) → Except Text Endpoint
  | [] => .ok endpoint
  | parameters => endpoint.withQuery (Form.encode parameters)

/-- The host of an address as it is shown, which the header that names the host must be able to hold. -/
def shownHost (endpoint : Endpoint) : Except Text Text :=
  match Host.shown endpoint.host with
  | .error problem => .error problem.message
  | .ok host =>
    match asciiProblem endpoint.place with
    | some message => .error message
    | none => .ok host

/-- The request of an account for a path. -/
def request (account : Account) (path : Text) (parameters : List (Text × Text)) :
    Except RequestError Request := do
  let endpoint ← (Endpoint.read (url account path)).mapError .invalidUrl
  match asciiProblem (bearerHeader account) with
  | some message => .error (.unwritable message)
  | none =>
    let endpoint ← (withParameters endpoint parameters).mapError .invalidUrl
    let host ← (shownHost endpoint).mapError .unwritable
    return ⟨endpoint, host, "application/json", authorization account endpoint⟩

end QueryFence.Jira
