import QueryFence.Spec.Reader
import QueryFence.Spec.Writer

/-!
Search fences in a document. A document is cut into segments whose texts put together give it back;
a fence runs from an opening line to the first closing line after it.
-/

namespace QueryFence

/-- A part of a document. -/
inductive Segment
  | plain (t : Text)
  /-- The opening line with its line feed, the lines between, and the closing line without its line
  feed. -/
  | fence (opening source closing : Text)
deriving DecidableEq, Repr

def Segment.text : Segment → Text
  | .plain t => t
  | .fence opening source closing => opening ++ source ++ closing

/-- A search block with its place in the document. -/
structure SearchBlock where
  start : Nat
  stop : Nat
  source : Text
deriving DecidableEq, Repr

namespace Document

/-- The lines of a text up to and with each line feed. -/
def rawLines : Text → List Text
  | [] => []
  | c :: rest =>
    if c = '\n' then ['\n'] :: rawLines rest
    else
      match rawLines rest with
      | [] => [[c]]
      | l :: ls => (c :: l) :: ls

def isPad (c : Char) : Bool := c = ' ' || c = '\t'

/-- The fence mark with the language, padding and a line feed. -/
def isOpening (line : Text) : Bool :=
  let mark := fenceMark ++ fenceLanguage
  mark.isPrefixOf line && (line.drop mark.length).dropWhile isPad == ['\n']

/-- The fence mark and padding, up to the end of the line or of the document. -/
def isClosing (line : Text) : Bool :=
  let mark := fenceMark
  mark.isPrefixOf line &&
    ((line.drop mark.length).dropWhile isPad).all (· == '\n')

/-- The line feed at the end of a line, as a segment of its own. -/
def lineFeedOf (line : Text) : List Segment :=
  if line.contains '\n' then [.plain ['\n']] else []

/-- The segments of further lines, with the fence that is open and the lines gathered in it. A fence
that is never closed is plain text. -/
def segmentsFrom : Option (Text × Text) → List Text → List Segment
  | none, [] => []
  | some (opening, source), [] => [.plain (opening ++ source)]
  | none, line :: rest =>
    if isOpening line then segmentsFrom (some (line, [])) rest
    else .plain line :: segmentsFrom none rest
  | some (opening, source), line :: rest =>
    if isClosing line then
      .fence opening source (line.takeWhile (· != '\n')) :: (lineFeedOf line ++
        segmentsFrom none rest)
    else segmentsFrom (some (opening, source ++ line)) rest

def segments (document : Text) : List Segment := segmentsFrom none (rawLines document)

/-- The search blocks among segments that start at a place. -/
def blocksFrom (start : Nat) : List Segment → List SearchBlock
  | [] => []
  | .plain t :: rest => blocksFrom (start + t.length) rest
  | s@(.fence _ source _) :: rest =>
    ⟨start, start + s.text.length, source⟩ :: blocksFrom (start + s.text.length) rest

def blocks (document : Text) : List SearchBlock := blocksFrom 0 (segments document)

/-- The sources of the search blocks, in order. -/
def sources (segments : List Segment) : List Text :=
  segments.filterMap fun
    | .plain _ => none
    | .fence _ source _ => some source

/-- The text of the segments with the fences replaced, one replacement for each. -/
def replaceFences : List Segment → List Text → Text
  | [], _ => []
  | .plain t :: rest, replacements => t ++ replaceFences rest replacements
  | .fence _ _ _ :: rest, replacement :: replacements =>
    replacement ++ replaceFences rest replacements
  | s@(.fence _ _ _) :: rest, [] => s.text ++ replaceFences rest []

/-- A segment in canonical form; a fence that is not read stays as it is. -/
def normalizeSegment (settings : Settings) : Segment → Except Fault Text
  | .plain t => .ok t
  | s@(.fence _ source _) =>
    match Spec.read settings source with
    | .ok spec => .ok (spec.fence settings)
    | .error (.rejected _) => .ok s.text
    | .error (.fault fault) => .error fault

/-- The document with every valid search fence in canonical form. -/
def normalize (settings : Settings) (document : Text) : Except Fault Text :=
  match (segments document).mapM (normalizeSegment settings) with
  | .ok texts => .ok texts.flatten
  | .error fault => .error fault

end Document

end QueryFence
