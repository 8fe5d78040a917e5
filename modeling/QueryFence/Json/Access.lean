import QueryFence.Fault

/-!
Reading values of unknown shape: what is asked of a value that its kind cannot give is a fault.
-/

namespace QueryFence.Json

/-- The member of an object, if it has it; only objects can be asked. -/
def get (v : Json) (name : Text) : Except Fault (Option Json) :=
  match v with
  | .object members => .ok (members.lookup name)
  | _ => .error (.noAttribute v.kind "get")

/-- The member of an object, or another value where it has none. -/
def getD (v : Json) (name : Text) (default : Json) : Except Fault Json :=
  match v.get name with
  | .ok found => .ok (found.getD default)
  | .error fault => .error fault

/-- The member of an object, which must have it. -/
def item (v : Json) (name : Text) : Except Fault Json :=
  match v with
  | .object members =>
    match members.lookup name with
    | some m => .ok m
    | none => .error (.missingKey name)
  | .list _ => .error (.wrongKind "list indices must be integers or slices, not str")
  | .text _ => .error (.wrongKind "string indices must be integers, not 'str'")
  | _ => .error (.wrongKind ("'" ++ v.kind.name ++ "' object is not subscriptable"))

/-- Whether a name is a member of an object, an item of a list or a part of a text. -/
def contains (v : Json) (name : Text) : Except Fault Bool :=
  match v with
  | .object members => .ok (members.lookup name).isSome
  | .list items => .ok (items.any fun
      | .text t => t == name
      | _ => false)
  | .text t => .ok (name.occursIn t)
  | _ => .error (.wrongKind ("argument of type '" ++ v.kind.name ++ "' is not iterable"))

/-- The items of a list, the names of an object or the characters of a text. -/
def items (v : Json) : Except Fault (List Json) :=
  match v with
  | .list items => .ok items
  | .object members => .ok (members.map fun member => .text member.1)
  | .text t => .ok (t.map fun c => .text [c])
  | _ => .error (.wrongKind ("'" ++ v.kind.name ++ "' object is not iterable"))

/-- A value, or another one where it is void. -/
def orElse (v other : Json) : Json := if v.isVoid then other else v

end QueryFence.Json
