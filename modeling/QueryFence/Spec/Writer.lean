import QueryFence.Settings.Basic
import QueryFence.Spec.Basic

/-!
The canonical text of a search specification, and the fence that holds it in a document.
-/

namespace QueryFence

def Content.write : Content → Text
  | .field kind => kind.word
  | .notes path => if path.isEmpty then Column.notesWord else Column.notesWord ++ '.' :: path
  | .custom id => '$' :: id

def Column.write (settings : Settings) (c : Column) : Text :=
  (if c.compact then settings.compactSymbol else []) ++ c.content.write

namespace Spec

/-- One line of canonical text. -/
def entryLine (key value : Text) : Text := key ++ ": " ++ value ++ "\n"

/-- The canonical text. What is not set is left out; an entry without a value would be read as a
query. -/
def write (settings : Settings) (s : Spec) : Text :=
  entryLine "type" s.mode.word ++
    (if s.query.isEmpty then [] else entryLine "query" s.query) ++
    (match s.limit with
      | some limit => entryLine "limit" (Text.ofNat limit.value)
      | none => []) ++
    (if s.columns.isEmpty then []
      else entryLine "columns" (Text.joinWith ", " (s.columns.map (Column.write settings))))

end Spec

/-- The marks that open and close a search fence. -/
def fenceMark : Text := "```"

def fenceLanguage : Text := "jira-search"

/-- The canonical text in a search fence. -/
def Spec.fence (settings : Settings) (s : Spec) : Text :=
  fenceMark ++ fenceLanguage ++ "\n" ++ s.write settings ++ fenceMark

end QueryFence
