import QueryFence.Encoding.Wide
import QueryFence.Json.Reader

/-!
Reading JSON from the bytes of a body. The zeros among the first bytes tell how it is written, as the
first two characters of JSON are of ASCII.
-/

namespace QueryFence.Json

/-- The layout in wide units that the first bytes tell, if they tell one. -/
def layout? : List UInt8 → Option Wide.Layout
  | [0, _] => some ⟨false, true⟩
  | [_, 0] => some ⟨false, false⟩
  | a :: b :: c :: d :: _ =>
    if a = 0 then some ⟨b = 0, true⟩
    else if b = 0 then some ⟨c = 0 && d = 0, false⟩
    else none
  | _ => none

/-- Why a body is not read. -/
inductive BodyError
  | bytes (problem : Wide.Problem)
  | text (error : ReadError)
deriving DecidableEq, Repr

def BodyError.message : BodyError → Text
  | .bytes problem => problem.message
  | .text error => error.message

/-- The value of a body, given as the text that its bytes are in UTF-8. A byte order mark in front
does not count. -/
def readBody (body : Text) : Except BodyError Json :=
  match layout? (Text.utf8 (body.take 4)) with
  | some layout =>
    match Wide.decode layout (Text.utf8 body) with
    | .ok t => (read t).mapError .text
    | .error problem => .error (.bytes problem)
  | none =>
    match body with
    | '\uFEFF' :: rest => (read rest).mapError .text
    | _ => (read body).mapError .text

end QueryFence.Json
