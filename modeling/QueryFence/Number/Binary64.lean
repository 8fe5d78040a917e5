/-!
Floating-point numbers of 64 bits: the dyadic rationals that the format can hold, two infinities and
one value that is no number. Every operation is exact on rationals and rounds once, to the nearest
number of the format, ties to the even mantissa.
-/

namespace QueryFence

/-- A finite number is `mantissa * 2 ^ exponent` with a sign, which zero has too. -/
inductive Binary64
  | finite (negative : Bool) (mantissa : Nat) (exponent : Int)
  | infinite (negative : Bool)
  | nan
deriving DecidableEq, Repr, Inhabited

namespace Binary64

/-- The least exponent of the format. -/
def leastExponent : Int := -1074

/-- The largest exponent of the format. -/
def greatestExponent : Int := 971

def zero (negative : Bool) : Binary64 := .finite negative 0 leastExponent

/-- The power of two from which on a mantissa is full. -/
def fullMantissa : Nat := 4503599627370496

/-- `num / den` halved `k` times, or doubled when `k` is negative, as numerator and denominator. -/
def scaleDown (num den : Nat) (k : Int) : Nat × Nat :=
  if 0 ≤ k then (num, den * Nat.pow 2 k.toNat) else (num * Nat.pow 2 (-k).toNat, den)

/-- The quotient rounded to the nearest natural number, a tie to the even one. -/
def roundedQuotient (num den : Nat) : Nat :=
  let q := num / den
  let twice := 2 * (num % den)
  if twice < den then q else if den < twice then q + 1 else q + q % 2

/-- The number of the format nearest to `num / den`. -/
def ofQuotient (negative : Bool) (num den : Nat) : Binary64 :=
  if num = 0 then zero negative
  else
    let guess : Int := (Nat.log2 num : Int) - Nat.log2 den - 52
    let down := scaleDown num den guess
    let e := max leastExponent (if down.1 / down.2 < fullMantissa then guess - 1 else guess)
    let scaled := scaleDown num den e
    let m := roundedQuotient scaled.1 scaled.2
    let (m, e) := if m = 2 * fullMantissa then (fullMantissa, e + 1) else (m, e)
    if greatestExponent < e then .infinite negative else .finite negative m e

/-- The number nearest to `mantissa * 10 ^ exponent`. Far outside the format the answer is known
without the power. -/
def ofDecimal (negative : Bool) (mantissa : Nat) (exponent : Int) : Binary64 :=
  let magnitude := (Nat.toDigits 10 mantissa).length + exponent
  if mantissa = 0 || magnitude < -400 then zero negative
  else if 400 < magnitude then .infinite negative
  else if 0 ≤ exponent then ofQuotient negative (mantissa * Nat.pow 10 exponent.toNat) 1
  else ofQuotient negative mantissa (Nat.pow 10 (-exponent).toNat)

def ofRat (r : Rat) : Binary64 := ofQuotient (r < 0) r.num.natAbs r.den

def ofInt (n : Int) : Binary64 := ofQuotient (n < 0) n.natAbs 1

/-- The exact value of a finite number. -/
def toRat? : Binary64 → Option Rat
  | .finite negative m e =>
    let (num, den) := scaleDown m 1 (-e)
    some (mkRat (if negative then -num else num) den)
  | _ => none

def isZero : Binary64 → Bool
  | .finite _ m _ => m == 0
  | _ => false

/-- The integer that a number equals, if there is one. -/
def toInt? (x : Binary64) : Option Int :=
  match x.toRat? with
  | some r => if r.den = 1 then some r.num else none
  | none => none

/-- Lifts an operation on rationals; where an operand is not finite there is no number. -/
def lift₂ (f : Rat → Rat → Rat) (x y : Binary64) : Binary64 :=
  match x.toRat?, y.toRat? with
  | some a, some b => ofRat (f a b)
  | _, _ => .nan

/-- The remainder of a division with the sign of the number divided, which is always exact. -/
def remainder (x : Binary64) (by_ : Nat) : Binary64 :=
  lift₂ (fun a b => a - b * ((a / b).num.tdiv (a / b).den)) x (ofInt by_)

/-- Quotient and remainder of a division by a positive whole number, the remainder never negative:
the quotient is found from the exact remainder, in steps that round. -/
def floorDivMod (x : Binary64) (by_ : Nat) : Binary64 × Binary64 :=
  let divisor := ofInt by_
  let rest := remainder x by_
  let quotient := lift₂ (· / ·) (lift₂ (· - ·) x rest) divisor
  match rest.toRat?, quotient.toRat? with
  | some r, some q =>
    let (rest, q) :=
      if r < 0 then
        (lift₂ (· + ·) rest divisor, ((lift₂ (· - ·) quotient (ofInt 1)).toRat?).getD q)
      else (rest, q)
    let whole := q.floor
    let whole := if q - whole > 1 / 2 then whole + 1 else whole
    (ofInt whole, rest)
  | _, _ => (.nan, .nan)

/-- The number times a power of two; beyond the format it is infinite. -/
def doubled (x : Binary64) (times : Nat) : Binary64 :=
  match x with
  | .finite negative m e => if m = 0 then x else ofQuotient negative (scaleDown m 1 (-(e + times))).1
      (scaleDown m 1 (-(e + times))).2
  | _ => x

end Binary64

end QueryFence
