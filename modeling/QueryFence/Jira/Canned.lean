import QueryFence.Calendar.Span
import QueryFence.Jira.Client

/-!
A server of canned responses, to try the client without a network. It keeps what was asked of it.
-/

namespace QueryFence.Jira

/-- Responses for the requests that have the given host, path and query. -/
structure CannedRule where
  host : Option Text
  path : Option Text
  query : Option Text
  /-- One after the other; the last one is repeated. -/
  responses : List Response

structure CannedServer where
  rules : List CannedRule
  requests : List Request
  pauses : List Binary64

namespace CannedRule

def allows (wanted : Option Text) (found : Option Text) : Bool :=
  wanted.isNone || wanted == found

def accepts (rule : CannedRule) (r : Request) : Bool :=
  allows rule.host (some r.host) && allows rule.path (some r.endpoint.plainPath) &&
    allows rule.query ((Form.decode r.query).lookup queryName)

/-- The response of a rule, and the rule after it. -/
def use (rule : CannedRule) : Response × CannedRule :=
  match rule.responses with
  | [] => (.answered 404 [], rule)
  | [last] => (last, rule)
  | first :: rest => (first, { rule with responses := rest })

end CannedRule

namespace CannedServer

/-- The response of the first rule that accepts a request; without one nothing is found. -/
def respond (r : Request) : List CannedRule → Response × List CannedRule
  | [] => (.answered 404 [], [])
  | rule :: rest =>
    if rule.accepts r then (rule.use.1, rule.use.2 :: rest)
    else
      let (response, rest) := respond r rest
      (response, rule :: rest)

def answer : (q : Action) → CannedServer → q.Reply × CannedServer
  | .pause seconds, s => ((), { s with pauses := s.pauses ++ [seconds] })
  | .send r, s =>
    let (response, rules) := respond r s.rules
    (response, { s with rules := rules, requests := s.requests ++ [r] })

/-- The server with nothing asked of it yet. -/
def fresh (s : CannedServer) : CannedServer := { s with requests := [], pauses := [] }

end CannedServer

/-- A number of seconds in whole milliseconds, the nearest ones. -/
def milliseconds (seconds : Binary64) : Int :=
  match seconds.toRat? with
  | some r => Span.nearest (((Binary64.ofRat (r * 1000)).toRat?).getD 0)
  | none => 0

end QueryFence.Jira
