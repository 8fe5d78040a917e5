import QueryFence.Text.Basic
import QueryFence.Number.Binary64

/-!
Decimal text of floating-point numbers: the fewest digits that read back as the same number, and of
those the nearest.
-/

namespace QueryFence.Binary64

/-- The reals that round to a number lie between `low` and `high`, in units of `unit.1 / unit.2`;
the number itself is `value` units. The ends belong to it when the mantissa is even. -/
structure RoundingRange where
  low : Nat
  value : Nat
  high : Nat
  closed : Bool
  unit : Nat × Nat

/-- The range of a positive number. Below a power of two the neighbours are twice as close. -/
def RoundingRange.of (mantissa : Nat) (exponent : Int) : RoundingRange where
  low := if mantissa = fullMantissa && leastExponent < exponent then 4 * mantissa - 1
    else 4 * mantissa - 2
  value := 4 * mantissa
  high := 4 * mantissa + 2
  closed := mantissa % 2 == 0
  unit := scaleDown 1 1 (2 - exponent)

/-- `digits * 10 ^ exponent`. -/
structure Decimal where
  digits : Nat
  exponent : Int
deriving DecidableEq, Repr

/-- `n * 10 ^ k` as numerator and denominator. -/
def tenfold (n : Nat) (k : Int) : Nat × Nat :=
  if 0 ≤ k then (n * Nat.pow 10 k.toNat, 1) else (n, Nat.pow 10 (-k).toNat)

/-- Whether a decimal lies in a range. -/
def RoundingRange.holds (r : RoundingRange) (d : Decimal) : Bool :=
  let (num, den) := tenfold d.digits d.exponent
  let at_ := num * r.unit.2
  let low := r.low * r.unit.1 * den
  let high := r.high * r.unit.1 * den
  if r.closed then low ≤ at_ && at_ ≤ high else low < at_ && at_ < high

/-- The nearest decimal with the given last place, if one lies in the range; a tie goes to the even
digit. -/
def RoundingRange.nearestAt (r : RoundingRange) (place : Int) : Option Decimal :=
  let (num, den) := tenfold 1 place
  let top := r.value * r.unit.1 * den
  let bottom := num * r.unit.2
  let below : Decimal := ⟨top / bottom, place⟩
  let above : Decimal := ⟨top / bottom + 1, place⟩
  let nearest : Decimal := ⟨roundedQuotient top bottom, place⟩
  if r.holds nearest then some nearest
  else if r.holds below then some below
  else if r.holds above then some above
  else none

/-- The place of the leading digit of `num / den`, found upward from a power of ten below it. -/
def leadingPlace (num den : Nat) : Nat → Int → Int
  | 0, k => k
  | fuel + 1, k =>
    let (top, bottom) := tenfold 1 (k + 1)
    if top * den ≤ num * bottom then leadingPlace num den fuel (k + 1) else k

/-- The first of the decimals with 1, 2, 3, … digits that lies in the range. -/
def RoundingRange.firstOf (r : RoundingRange) (leading : Int) : List Nat → Decimal
  | [] => ⟨0, 0⟩
  | n :: more => (r.nearestAt (leading - n)).getD (r.firstOf leading more)

/-- The shortest decimal that rounds to a positive number. -/
def shortest (mantissa : Nat) (exponent : Int) : Decimal :=
  let r := RoundingRange.of mantissa exponent
  let num := r.value * r.unit.1
  let start := ((Nat.log2 num : Int) - Nat.log2 r.unit.2 - 1) * 30103 / 100000 - 2
  r.firstOf (leadingPlace num r.unit.2 6 start) (List.range 18)

/-- Digits without the zeros at the end, and how many of those there were. -/
def stripZeros : Nat → Nat → Nat × Nat
  | 0, n => (n, 0)
  | fuel + 1, n =>
    if n ≠ 0 && n % 10 = 0 then
      let (m, k) := stripZeros fuel (n / 10)
      (m, k + 1)
    else (n, 0)

/-- How numbers are written. -/
structure Format where
  /-- Leading places from this one on are written with an exponent. -/
  scientificFrom : Int
  /-- Leading places below this one are written with an exponent. -/
  scientificBelow : Int
  /-- The least number of digits of an exponent. -/
  exponentWidth : Nat
  infinity : Text
  noNumber : Text

/-- Digits with a point behind the first and an exponent. -/
def Format.scientific (f : Format) (digits : Text) (place : Int) : Text :=
  let mantissa := match digits with
    | d :: (more@(_ :: _)) => d :: '.' :: more
    | _ => digits
  mantissa ++ 'e' :: (if place < 0 then '-' else '+') :: Text.padded f.exponentWidth place.natAbs

/-- Digits with a point where the place of the first one puts it, and at least one behind it. -/
def positional (digits : Text) (place : Int) : Text :=
  if place < 0 then
    '0' :: '.' :: List.replicate (place.natAbs - 1) '0' ++ digits
  else
    let whole := place.toNat + 1
    if digits.length ≤ whole then
      digits ++ List.replicate (whole - digits.length) '0' ++ ".0"
    else digits.take whole ++ '.' :: digits.drop whole

def write (f : Format) : Binary64 → Text
  | .nan => f.noNumber
  | .infinite negative => (if negative then "-" else "" : String).toList ++ f.infinity
  | .finite negative 0 _ => (if negative then "-" else "" : String).toList ++ "0.0".toList
  | .finite negative m e =>
    let d := shortest m e
    let (n, zeros) := stripZeros 20 d.digits
    let digits := Text.ofNat n
    let place := d.exponent + zeros + digits.length - 1
    (if negative then "-" else "" : String).toList ++
      (if place < f.scientificBelow || f.scientificFrom ≤ place then f.scientific digits place
       else positional digits place)

/-- Numbers from `10 ^ -4` up to `10 ^ 16` are positional. -/
def plainFormat : Format where
  scientificFrom := 16
  scientificBelow := -4
  exponentWidth := 2
  infinity := "inf"
  noNumber := "nan"

/-- The number as text. -/
def text (x : Binary64) : Text := x.write plainFormat

end QueryFence.Binary64
