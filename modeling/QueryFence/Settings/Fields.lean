import QueryFence.Fault
import QueryFence.Json.Order
import QueryFence.Settings.Basic

/-!
Looking up custom fields by id and by name. Of several fields with one name the last one counts.
-/

namespace QueryFence

namespace FieldTable

/-- Stores an id under a name: in the place of an older one, or at the end. -/
def insertName (name : Json) (id : Text) : List (Json × Text) → List (Json × Text)
  | [] => [(name, id)]
  | (n, i) :: rest =>
    if n.same name then (n, id) :: rest else (n, i) :: insertName name id rest

/-- The ids by their names. A list or an object cannot be a name. -/
def idsByName (table : FieldTable) : Except Fault (List (Json × Text)) :=
  table.foldlM (fun ids (id, name) =>
    match name with
    | .list _ | .object _ => .error (.wrongKind ("unhashable type: '" ++ name.kind.name ++ "'"))
    | _ => .ok (insertName name id ids)) []

/-- The id of the last field with a name. -/
def idOf? (table : FieldTable) (name : Text) : Except Fault (Option Text) :=
  match table.idsByName with
  | .ok ids => .ok ((ids.find? fun entry => entry.1.same (.text name)).map (·.2))
  | .error fault => .error fault

/-- The name of the field with an id. -/
def nameOf? (table : FieldTable) (id : Text) : Option Json := table.lookup id

end FieldTable

end QueryFence
