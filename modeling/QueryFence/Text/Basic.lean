/-!
Texts are lists of code points, so that every rule about them is a recursion over the list.
String literals stand for the texts they spell.
-/

namespace QueryFence

/-- A text is a list of code points. -/
abbrev Text := List Char

instance : Coe String Text := ⟨String.toList⟩

namespace Text

/-- The decimal digits of a natural number, without leading zeros. -/
def ofNat (n : Nat) : Text := Nat.toDigits 10 n

/-- The decimal digits of an integer, with a minus sign when it is negative. -/
def ofInt : Int → Text
  | .ofNat n => ofNat n
  | .negSucc n => '-' :: ofNat (n + 1)

/-- A natural number in lower-case hexadecimal, padded with zeros to a width. -/
def hex (width n : Nat) : Text :=
  let digits := Nat.toDigits 16 n
  List.replicate (width - digits.length) '0' ++ digits

/-- A natural number in decimal, padded with zeros to a width. -/
def padded (width n : Nat) : Text :=
  let digits := ofNat n
  List.replicate (width - digits.length) '0' ++ digits

/-- The parts of a list of texts, one after the other, with a separator between neighbours. -/
def joinWith (separator : Text) (parts : List Text) : Text := separator.intercalate parts

/-- What stands before the first occurrence of a character, and what stands after it. -/
def partition (c : Char) (t : Text) : Text × Text :=
  (t.takeWhile (· != c), (t.dropWhile (· != c)).drop 1)

/-- Replaces every occurrence of one character by a text. -/
def replaceChar (c : Char) (by_ : Text) (t : Text) : Text :=
  t.flatMap fun d => if d = c then by_ else [d]

/-- Whether a text occurs in another one as a run of neighbouring characters. -/
def occursIn (part : Text) : Text → Bool
  | [] => part.isEmpty
  | c :: rest => part.isPrefixOf (c :: rest) || occursIn part rest

/-- Whether a text comes before another one, or is it, in the order of their code points. -/
def isAtMost : Text → Text → Bool
  | [], _ => true
  | _ :: _, [] => false
  | c :: s, d :: t => c.toNat < d.toNat || (c == d && isAtMost s t)

/-- The UTF-8 bytes of a text. -/
def utf8 (t : Text) : List UInt8 := t.flatMap String.utf8EncodeChar

/-- ASCII capitals become small letters and all else stays. The words looked up this way are ASCII
words without a `k`, and no character beyond ASCII has one of their letters as its small form. -/
def lowerAscii (t : Text) : Text := t.map Char.toLower

/-- What stands before the last occurrence of a character, where it has one, and what follows. -/
def splitLast (c : Char) : Text → Option Text × Text
  | [] => (none, [])
  | d :: rest =>
    match splitLast c rest with
    | (some before, behind) => (some (d :: before), behind)
    | (none, behind) => if d = c then (some [], behind) else (none, d :: behind)

/-- Whether a number lies in one of some runs, each given by its first and its last number. -/
def inRuns (runs : List (Nat × Nat)) (n : Nat) : Bool :=
  runs.any fun run => run.1 ≤ n && n ≤ run.2

end Text

end QueryFence
