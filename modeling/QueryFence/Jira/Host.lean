import QueryFence.Domain.Name
import QueryFence.Encoding.Percent
import QueryFence.Text.SmallLetter

/-!
Hosts of addresses: numbers of four bytes, numbers of eight groups in brackets, and names. A name
beyond ASCII is checked and written in ASCII; any other one may hold what it likes, with percent
escapes where an address needs them.
-/

namespace QueryFence.Host

/-- Four numerals with points between them, whether they are bytes or not. -/
def looksNumbered (t : Text) : Bool :=
  (t.splitOn '.').length == 4 && (t.splitOn '.').all Text.isNumeral

/-- A number of one byte without leading zeros. -/
def isByte (t : Text) : Bool :=
  Text.isNumeral t && t.length ≤ 3 && Text.numeralValue t ≤ 255 && (t == ['0'] || t.head? != some '0')

/-- Four bytes with points between them. -/
def isFourBytes (t : Text) : Bool := (t.splitOn '.').length == 4 && (t.splitOn '.').all isByte

/-- A group of one to four hexadecimal digits. -/
def isGroup (t : Text) : Bool :=
  !t.isEmpty && t.length ≤ 4 && t.all fun c => (Text.hexDigit? c).isSome

/-- The number of groups, if all are well written; four bytes at the end count as two groups. -/
def countGroups (bytesAtEnd : Bool) : List Text → Option Nat
  | [] => some 0
  | [t] => if bytesAtEnd && isFourBytes t then some 2 else if isGroup t then some 1 else none
  | t :: rest => if isGroup t then (countGroups bytesAtEnd rest).map (· + 1) else none

/-- The texts before and behind the first pair of colons. -/
def splitGap : Text → Option (Text × Text)
  | [] => none
  | ':' :: ':' :: rest => some ([], rest)
  | c :: rest => (splitGap rest).map fun (before, behind) => (c :: before, behind)

def groups (t : Text) : List Text := if t.isEmpty then [] else t.splitOn ':'

/-- Eight groups; a pair of colons stands for one or more groups of zero. -/
def isEightGroups (t : Text) : Bool :=
  match splitGap t with
  | none => countGroups true (groups t) == some 8
  | some (before, behind) =>
    match countGroups false (groups before), countGroups true (groups behind) with
    | some n, some m => n + m ≤ 7
    | _, _ => false

/-- Eight groups, and the name of a zone behind a percent sign. -/
def isZonedGroups (t : Text) : Bool :=
  let (address, zone) := Text.partition '%' t
  isEightGroups address && (!t.contains '%' || (!zone.isEmpty && !zone.contains '%'))

/-- The characters that a name of ASCII may hold as they are. -/
def isPlain (c : Char) : Bool :=
  c.isAlphanum || ("-._~!$&'()*+,;=\"\x60\x7b\x7d%|\\" : Text).contains c

/-- The host that is written in an address, or the message that it is none. -/
def read (host : Text) : Except Text Text :=
  if looksNumbered host then
    if isFourBytes host then .ok host
    else .error ("Invalid IPv4 address: " ++ Text.quoted host)
  else if host.head? == some '[' && host.getLast? == some ']' then
    let inner := (host.drop 1).dropLast
    if isZonedGroups inner then .ok inner
    else .error ("Invalid IPv6 address: " ++ Text.quoted host)
  else if host.all Punycode.isBasic then .ok (Percent.escape isPlain (Text.lowerAscii host))
  else
    match Domain.encode (Text.lower host) with
    | .ok name => .ok name
    | .error _ => .error ("Invalid IDNA hostname: " ++ Text.quoted host)

/-- A host as it is shown. A name that starts with a label in Punycode is shown as it is meant. -/
def shown (host : Text) : Except Domain.NameProblem Text :=
  if Domain.mark.isPrefixOf host then Domain.decode host else .ok host

end QueryFence.Host
