import QueryFence.Jira.Client
import QueryFence.Settings.Environment
import QueryFence.Spec.Reader

/-!
All that can end a whole operation of the library.
-/

namespace QueryFence

inductive Failure
  | spec (error : SpecError)
  | search (failure : SearchFailure)
  | settings (failure : SettingsFailure)
  | fault (fault : Fault)
deriving DecidableEq, Repr

/-- A path to a value, its steps with points between them. -/
def Problem.pathText (p : Problem) : Text :=
  Text.joinWith "." (p.path.map fun
    | .name name => name
    | .index n => Text.ofNat n)

def SettingsFailure.message : SettingsFailure → Text
  | .unread name => "error parsing value for field \"" ++ name ++ "\""
  | .invalid problems =>
    Text.joinWith "\n" (problems.map fun p => p.pathText ++ ": " ++ p.cause.code)

namespace Failure

def message : Failure → Text
  | .spec e => e.message
  | .search f => f.message
  | .settings f => f.message
  | .fault f => f.message

def ofSpec : SpecFailure → Failure
  | .rejected error => .spec error
  | .fault f => .fault f

def ofSearch : SearchFailure → Failure
  | .fault f => .fault f
  | failure => .search failure

end Failure

end QueryFence
