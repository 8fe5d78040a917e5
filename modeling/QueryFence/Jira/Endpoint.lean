import QueryFence.Jira.Host
import QueryFence.Text.Blank

/-!
Addresses of a service: scheme, user, host, port, path and query of a URL. An address that does not
name both scheme and host is only a path. The parts of an address are read once more when the query is
replaced.
-/

namespace QueryFence

structure Endpoint where
  /-- In small letters. -/
  scheme : Text
  /-- What stands before the host, with percent escapes: a user name, and a password behind a colon. -/
  userInfo : Text
  /-- As it is written in ASCII; the name of a zone stands in it as it is. -/
  host : Text
  /-- The port, unless it is the usual one of the scheme. -/
  port : Option Int
  /-- With percent escapes. -/
  path : Text
  /-- With percent escapes, where the address has a question mark. -/
  query : Option Text
  /-- What stands behind a number sign, with percent escapes. It is not sent. -/
  fragment : Option Text
deriving DecidableEq, Repr

namespace Endpoint

/-- The longest URL, and the longest part of one. -/
def lengthLimit : Nat := 65536

/-- The usual ports of schemes. -/
def usualPorts : List (Text × Int) :=
  [("ftp", 21), ("http", 80), ("https", 443), ("ws", 80), ("wss", 443)]

/-- A visible character of ASCII that is none of the given ones. -/
def isVisibleBut (excluded : Text) (c : Char) : Bool :=
  32 < c.toNat && c.toNat < 127 && !excluded.contains c

/-- The characters that a query may hold as they are. -/
def isQueryChar (c : Char) : Bool := isVisibleBut "\"#<>" c

/-- The characters that a path may hold as they are. -/
def isPathChar (c : Char) : Bool := isVisibleBut "\"#<>?\x60\x7b\x7d" c

/-- The characters that may stand before the host as they are. -/
def isUserChar (c : Char) : Bool := isVisibleBut "\"#<>?\x60\x7b\x7d/;=@[\\]^|" c

/-- The characters that may stand behind a number sign as they are. -/
def isFragmentChar (c : Char) : Bool := isVisibleBut "\"<>\x60" c

/-- The characters that a scheme may hold behind its first letter. -/
def isSchemeChar (c : Char) : Bool := c.isAlphanum || c = '+' || c = '.' || c = '-'

/-- The scheme before the first colon and what follows it. What is no scheme is left in its place,
but for a colon at the very start. -/
def splitScheme (t : Text) : Text × Text :=
  if !t.contains ':' then ([], t)
  else
    match Text.partition ':' t with
    | ([], rest) => ([], rest)
    | (c :: more, rest) =>
      if c.isAlpha && more.all isSchemeChar then (c :: more, rest) else ([], t)

/-- Whether a character ends the part between the two slashes and the path. -/
def endsAuthority (c : Char) : Bool := c = '/' || c = '?' || c = '#'

/-- The part behind two slashes, and what follows it. -/
def splitAuthority : Text → Text × Text
  | '/' :: '/' :: rest => (rest.takeWhile (!endsAuthority ·), rest.dropWhile (!endsAuthority ·))
  | t => ([], t)

/-- Host and port; a host in brackets may hold colons. -/
def splitPort (place : Text) : Text × Text :=
  let (host, port) := match place with
    | '[' :: rest =>
      match Text.splitLast ']' rest with
      | (some inner, behind) => ('[' :: inner ++ [']'], behind)
      | (none, _) => (place.takeWhile (· != ':'), place.dropWhile (· != ':'))
    | _ => (place.takeWhile (· != ':'), place.dropWhile (· != ':'))
  (host, if port.head? = some ':' then port.drop 1 else port)

/-- A port, or the message that it is none. The usual port of the scheme, as far as that is written in
small letters, is none too. -/
def readPort (scheme port : Text) : Except Text (Option Int) :=
  if port.isEmpty then .ok none
  else
    match Text.integer? port with
    | some n => .ok (if usualPorts.lookup scheme = some n then none else some n)
    | none => .error ("Invalid port: " ++ Text.quoted port)

/-- The parts of a path without the steps that stay or lead back. -/
def resolveDots (parts : List Text) : List Text :=
  parts.foldl (fun kept part =>
    if part == ['.'] then kept
    else if part == ['.', '.'] then (if kept == [] || kept == [[]] then kept else kept.dropLast)
    else kept ++ [part]) []

def normalPath (path : Text) : Text := Text.joinWith "/" (resolveDots (path.splitOn '/'))

/-- The first character that a URL must not hold, with its place. -/
def findControl (n : Nat) : Text → Option (Nat × Char)
  | [] => none
  | c :: rest => if c.toNat < 32 || c.toNat = 127 then some (n, c) else findControl (n + 1) rest

/-- What is wrong with the characters of a URL. -/
def textProblem (url : Text) : Option Text :=
  if lengthLimit < url.length then some "URL too long"
  else
    (findControl 0 url).map fun (n, c) =>
      "Invalid non-printable ASCII character in URL, " ++ Text.quoted [c] ++ " at position " ++
        Text.ofNat n ++ "."

/-- The address whose parts have been told apart. -/
def build (scheme authority path : Text) (query fragment : Option Text) : Except Text Endpoint := do
  let (user, place) := Text.splitLast '@' authority
  let userInfo := Percent.escape isUserChar (user.getD [])
  let host ← Host.read (splitPort place).1
  let port ← readPort scheme (splitPort place).2
  let query := query.map (Percent.escape isQueryChar)
  let fragment := fragment.map (Percent.escape isFragmentChar)
  if scheme.isEmpty && userInfo.isEmpty && host.isEmpty && port.isNone then
    if ("//" : Text).isPrefixOf path then
      .error "Relative URLs cannot have a path starting with '//'"
    else if (":" : Text).isPrefixOf path then
      .error "Relative URLs cannot have a path starting with ':'"
    else .ok ⟨[], [], [], none, Percent.escape isPathChar path, query, fragment⟩
  else
    .ok ⟨Text.lowerAscii scheme, userInfo, host, port, Percent.escape isPathChar (normalPath path),
      query, fragment⟩

/-- The message on the first part that is too long. -/
def longPart? (parts : List (Text × Option Text)) : Option Text :=
  (parts.find? fun (_, part) => part.any fun t => lengthLimit < t.length).map fun (name, _) =>
    "URL component '" ++ name ++ "' too long"

/-- The address that is made of the parts of another one. -/
def rebuild (scheme authority path : Text) (query fragment : Option Text) : Except Text Endpoint :=
  match longPart? [("scheme", some scheme), ("authority", some authority), ("path", some path),
    ("query", query), ("fragment", fragment)] with
  | some message => .error message
  | none => build scheme authority path query fragment

/-- Whether an address names both scheme and host. -/
def isAbsolute (e : Endpoint) : Bool := !e.scheme.isEmpty && !e.host.isEmpty

/-- The address that a URL writes, or the message that it is none. Of one without scheme or host the
path and the query are left. -/
def read (url : Text) : Except Text Endpoint :=
  match textProblem url with
  | some message => .error message
  | none => do
    let (scheme, rest) := splitScheme url
    let (authority, rest) := splitAuthority rest
    let (rest, behind) := Text.partition '#' rest
    let query := if rest.contains '?' then some (Text.partition '?' rest).2 else none
    let fragment := if url.contains '#' then some behind else none
    let e ← build scheme authority (Text.partition '?' rest).1 query fragment
    if e.isAbsolute then .ok e
    else rebuild [] [] ('/' :: e.path.dropWhile (· = '/')) e.query none

/-- Host and port, with brackets around a host that holds colons. -/
def place (e : Endpoint) : Text :=
  (if e.host.contains ':' then '[' :: e.host ++ [']'] else e.host) ++
    ((e.port.map fun n => ':' :: Text.ofInt n).getD [])

/-- What stands between the two slashes and the path. -/
def authority (e : Endpoint) : Text :=
  (if e.userInfo.isEmpty then [] else e.userInfo ++ ['@']) ++ e.place

/-- The address with another query, or the message that it is too long. -/
def withQuery (e : Endpoint) (query : Text) : Except Text Endpoint :=
  rebuild e.scheme e.authority e.path (some query) e.fragment

/-- User name and password, where the address holds one of them. -/
def user (e : Endpoint) : Option (Text × Text) :=
  let (name, password) := Text.partition ':' e.userInfo
  if name.isEmpty && password.isEmpty then none
  else some (Percent.unescape name, Percent.unescape password)

/-- The path that is sent, without percent escapes. -/
def plainPath (e : Endpoint) : Text := if e.path.isEmpty then "/" else Percent.unescape e.path

end Endpoint

end QueryFence
