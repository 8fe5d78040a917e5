import QueryFence.Settings.Check
import QueryFence.Spec.Basic

/-!
Checking specifications that are given as JSON objects instead of the text of a block.
-/

namespace QueryFence.Checked

def mode : Json → Checked Mode
  | .text t =>
    match Mode.ofWord? t with
    | some m => .good m
    | none => fail .notMember
  | _ => fail .notMember

/-- The kind of a column of a plain field. Notes and custom fields have columns of their own. -/
def fieldKind : Json → Checked FieldKind
  | .text t =>
    match FieldKind.ofWord? t with
    | some kind => .good kind
    | none => fail (if t = Column.notesWord ∨ t = Column.customWord then .refused else .notMember)
  | _ => fail .notMember

def limit : Json → Checked (Option Limit)
  | .null => .good none
  | v =>
    match integer v with
    | .good n =>
      if h : 0 < n.toNat then .good (some ⟨n.toNat, h⟩) else fail .notGreater
    | .bad problems => .bad problems

/-- A column, given by its variant and the members of that variant. -/
def column (variant : Text) (members : List (Text × Json)) : Checked Column :=
  if variant = "notes" then
    (fun compact path => ⟨compact, .notes path⟩) <$> optional members "compact" false bool
      <*> optional members "path" [] text
  else if variant = "custom" then
    (fun compact id => ⟨compact, .custom id⟩) <$> optional members "compact" false bool
      <*> required members "field_id" text
  else
    (fun kind compact => ⟨compact, .field kind⟩) <$> required members "kind" fieldKind
      <*> optional members "compact" false bool

/-- A specification with the given columns. -/
def spec (columns : List Column) (members : List (Text × Json)) : Checked Spec :=
  (fun mode query limit => ⟨mode, query, limit, columns⟩)
    <$> optional members "render_mode" .table mode
    <*> optional members "query" [] text
    <*> optional members "limit" none limit

end QueryFence.Checked
