import QueryFence.Encoding.Percent

/-!
Form encoding of query parameters: a space becomes a plus sign, and every byte outside the letters,
the digits and four marks a percent sign with two hexadecimal digits.
-/

namespace QueryFence.Form

/-- The characters that stand for themselves. -/
def isPlain (c : Char) : Bool := c.isAlphanum || c = '_' || c = '.' || c = '-' || c = '~'

def encodeChar (c : Char) : Text :=
  if c = ' ' then ['+']
  else if isPlain c then [c]
  else Percent.escapeChar c

def encodeText (t : Text) : Text := t.flatMap encodeChar

/-- Parameters as names and values with ampersands between them. -/
def encode (parameters : List (Text × Text)) : Text :=
  Text.joinWith "&" (parameters.map fun (name, value) => encodeText name ++ '=' :: encodeText value)

def decodeText (t : Text) : Text := Percent.unescape (Text.replaceChar '+' " " t)

/-- The parameters that a query writes; what has no equals sign is a name with an empty value. -/
def decode (query : Text) : List (Text × Text) :=
  ((query.splitOn '&').filter fun part => !part.isEmpty).map fun part =>
    (decodeText (Text.partition '=' part).1, decodeText (Text.partition '=' part).2)

end QueryFence.Form
