import QueryFence.Text.Quoted
import QueryFence.Json.Basic

/-!
Values as text for readers: a text stands for itself, and quoted only inside a list or an object.
-/

namespace QueryFence.Json

mutual

/-- A value inside a list or an object. -/
def shown : Json → Text
  | .null => "None"
  | .bool true => "True"
  | .bool false => "False"
  | .int n => Text.ofInt n
  | .float x => x.text
  | .text t => Text.quoted t
  | .list items => '[' :: Text.joinWith ", " (shownItems items) ++ "]"
  | .object members => '\x7b' :: Text.joinWith ", " (shownMembers members) ++ "\x7d"

def shownItems : List Json → List Text
  | [] => []
  | v :: rest => shown v :: shownItems rest

def shownMembers : List (Text × Json) → List Text
  | [] => []
  | (name, v) :: rest => (Text.quoted name ++ ": " ++ shown v) :: shownMembers rest

end

/-- A value on its own. -/
def display : Json → Text
  | .text t => t
  | v => shown v

end QueryFence.Json
