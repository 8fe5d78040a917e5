import QueryFence.Text.Printable

/-!
Quoted texts, as they stand inside the text of a list or an object and in messages that name a key.
-/

namespace QueryFence.Text

/-- The quotes around a text: single ones, unless it holds a single quote and no double one. -/
def quoteFor (t : Text) : Char :=
  if t.contains '\'' && !t.contains '"' then '"' else '\''

/-- One character between quotes: the quote, the backslash and the usual controls after a backslash,
other characters that cannot be printed by the shortest of three numbers. -/
def escapeIn (quote c : Char) : Text :=
  if c = quote || c = '\\' then ['\\', c]
  else if c = '\n' then "\\n"
  else if c = '\r' then "\\r"
  else if c = '\t' then "\\t"
  else if isPrintable c then [c]
  else if c.toNat < 0x100 then '\\' :: 'x' :: hex 2 c.toNat
  else if c.toNat < 0x10000 then '\\' :: 'u' :: hex 4 c.toNat
  else '\\' :: 'U' :: hex 8 c.toNat

def quoted (t : Text) : Text :=
  let quote := quoteFor t
  quote :: t.flatMap (escapeIn quote) ++ [quote]

end QueryFence.Text
