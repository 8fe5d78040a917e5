import QueryFence.Encoding.Utf8
import QueryFence.Text.Digit

/-!
Percent escapes: a byte that may not stand in an address is written as a percent sign with two
hexadecimal digits.
-/

namespace QueryFence.Percent

/-- A byte as a percent sign with two capital hexadecimal digits. -/
def escapeByte (b : UInt8) : Text := '%' :: (Text.hex 2 b.toNat).map Char.toUpper

def escapeChar (c : Char) : Text := (String.utf8EncodeChar c).flatMap escapeByte

/-- The byte that two hexadecimal digits write. -/
def byteOf? (high low : Char) : Option UInt8 := (Text.hexValue? [high, low]).map UInt8.ofNat

/-- A text with every character escaped that is not allowed; escapes that it holds already stay. -/
def escape (allowed : Char → Bool) : Text → Text
  | [] => []
  | '%' :: a :: b :: rest =>
    if (byteOf? a b).isSome then '%' :: a :: b :: escape allowed rest
    else (if allowed '%' then ['%'] else escapeChar '%') ++ escape allowed (a :: b :: rest)
  | c :: rest => (if allowed c then [c] else escapeChar c) ++ escape allowed rest

/-- The bytes of a text, with those that its escapes write. -/
def bytes : Text → List UInt8
  | [] => []
  | '%' :: a :: b :: rest =>
    match byteOf? a b with
    | some byte => byte :: bytes rest
    | none => String.utf8EncodeChar '%' ++ bytes (a :: b :: rest)
  | c :: rest => String.utf8EncodeChar c ++ bytes rest

/-- A text with the characters that its escapes write. -/
def unescape (t : Text) : Text := Utf8.decode (bytes t)

end QueryFence.Percent
