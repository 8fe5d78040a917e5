import QueryFence.Assoc
import QueryFence.Number.Shortest

/-!
JSON values. Integers are unbounded and told apart from floating-point numbers; an object keeps the
order of its members, whose names are distinct.
-/

namespace QueryFence

inductive Json
  | null
  | bool (b : Bool)
  | int (n : Int)
  | float (x : Binary64)
  | text (t : Text)
  | list (items : List Json)
  | object (members : List (Text × Json))
deriving Inhabited

namespace Json

/-- The kinds of values. -/
inductive Kind
  | null
  | bool
  | int
  | float
  | text
  | list
  | object
deriving DecidableEq, Repr

def kind : Json → Kind
  | .null => .null
  | .bool _ => .bool
  | .int _ => .int
  | .float _ => .float
  | .text _ => .text
  | .list _ => .list
  | .object _ => .object

/-- The name of a kind in messages. -/
def Kind.name : Kind → Text
  | .null => "NoneType"
  | .bool => "bool"
  | .int => "int"
  | .float => "float"
  | .text => "str"
  | .list => "list"
  | .object => "dict"

/-- Null, false, zero and the empty text, list and object are void. -/
def isVoid : Json → Bool
  | .null => true
  | .bool b => !b
  | .int n => n == 0
  | .float x => x.isZero
  | .text t => t.isEmpty
  | .list items => items.isEmpty
  | .object members => members.isEmpty

/-- The members of an object written one after the other: of a repeated name the last value counts,
at the place of the first. -/
def membersOf (written : List (Text × Json)) : List (Text × Json) :=
  written.foldl (fun members (name, value) => Assoc.put name value members) []

/-- The member of an object under a name; other values have none. -/
def member? (name : Text) : Json → Option Json
  | .object members => members.lookup name
  | _ => none

end Json

end QueryFence
