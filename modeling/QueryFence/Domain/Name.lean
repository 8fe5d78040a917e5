import QueryFence.Domain.Label
import QueryFence.Encoding.Punycode

/-!
Domain names: labels with points between them. In ASCII a label beyond it is written in Punycode
behind a mark; each label is checked whichever way it is written.
-/

namespace QueryFence.Domain

/-- What is wrong with a name. -/
inductive NameProblem
  | empty
  /-- The mark of Punycode with nothing behind it. -/
  | bareMark
  /-- A label in Punycode that ends with a hyphen. -/
  | lastHyphen
  /-- A label that is no Punycode. -/
  | unreadable
  | label (codes : List Nat) (problem : LabelProblem)
  | labelTooLong
  | nameTooLong
deriving DecidableEq, Repr

def NameProblem.message : NameProblem → Text
  | .empty => "Empty domain"
  | .bareMark => "Malformed A-label, no Punycode eligible content found"
  | .lastHyphen => "A-label must not end with a hyphen"
  | .unreadable => "Invalid A-label"
  | .label codes problem => problem.message codes
  | .labelTooLong => "Label too long"
  | .nameTooLong => "Domain too long"

/-- What stands in front of a label in Punycode. -/
def mark : Text := "xn--"

/-- The longest label. -/
def labelLimit : Nat := 63

/-- The longest name, without the point that may end it. -/
def nameLimit : Nat := 253

/-- The points between labels. -/
def isPoint (c : Char) : Bool := c = '.' || c = '\u3002' || c = '\uFF0E' || c = '\uFF61'

/-- The labels of a name. -/
structure Labels where
  labels : List Text
  /-- Whether a point ends the name. -/
  pointed : Bool

def Labels.of (name : Text) : Except NameProblem Labels :=
  let labels := name.splitOnP isPoint
  if labels == [[]] then .error .empty
  else if labels.getLast? == some [] then .ok ⟨labels.dropLast, true⟩
  else .ok ⟨labels, false⟩

def Labels.join (l : Labels) : Text := Text.joinWith "." (l.labels ++ if l.pointed then [[]] else [])

/-- A label that passes the checks. -/
def checkLabel (label : List Nat) : Except NameProblem Text :=
  match labelProblem? label with
  | some problem => .error (.label label problem)
  | none => .ok (label.map Char.ofNat)

/-- The label that is meant by one in ASCII. -/
def readLabel (label : Text) : Except NameProblem Text :=
  let label := Text.lowerAscii label
  if mark.isPrefixOf label then
    match label.drop mark.length with
    | [] => .error .bareMark
    | written =>
      if written.getLast? == some '-' then .error .lastHyphen
      else
        match Punycode.decode written with
        | some codes => checkLabel codes
        | none => .error .unreadable
  else checkLabel (label.map Char.toNat)

/-- A label as it is written in ASCII. -/
def writeLabel (label : Text) : Except NameProblem Text := do
  let written ←
    if label.all Punycode.isBasic then do
      let _ ← readLabel label
      pure label
    else do
      let _ ← checkLabel (label.map Char.toNat)
      pure (mark ++ Punycode.encode label)
  if labelLimit < written.length then .error .labelTooLong else .ok written

/-- A name as it is written in ASCII. -/
def encode (name : Text) : Except NameProblem Text := do
  let l ← Labels.of name
  let written ← l.labels.mapM writeLabel
  let encoded := (Labels.mk written l.pointed).join
  if nameLimit + (if l.pointed then 1 else 0) < encoded.length then .error .nameTooLong
  else .ok encoded

/-- The name that is meant by one in ASCII. -/
def decode (name : Text) : Except NameProblem Text := do
  let l ← Labels.of name
  let read ← l.labels.mapM readLabel
  return (Labels.mk read l.pointed).join

end QueryFence.Domain
