import Nullability.Power

/-!
# Binary floating point numbers

The 64-bit binary format as exact data: a finite number is a sign and a significand times a power
of two, so that every operation is stated in whole numbers. A result that the format cannot hold is
the nearest number that it can; of two equally near ones, the one with the even significand.

The text of a number has the fewest digits that read back as the same number.
-/

namespace Nullability

/-- The nearest whole number to a quotient; a half goes to the even neighbour. -/
def roundHalfEven (num den : Nat) : Nat :=
  let q := num / den
  let r := num % den
  if 2 * r < den then q
  else if den < 2 * r then q + 1
  else if q % 2 = 0 then q else q + 1

/-- A number of the 64-bit binary format. -/
inductive Binary64 where
  /-- The number `± significand * 2 ^ exponent`. -/
  | finite (negative : Bool) (significand : Nat) (exponent : Int)
  | infinite (negative : Bool)
  | nan
  deriving DecidableEq, Repr, Inhabited

namespace Binary64

/-- The exponent of the least positive number. -/
def leastExponent : Int := -1074

/-- The exponent of the greatest finite numbers. -/
def greatestExponent : Int := 971

/-- Zero with a sign. -/
def signedZero (negative : Bool) : Binary64 :=
  .finite negative 0 leastExponent

/-- The numerator and denominator of `num / den / 2 ^ exponent`. -/
def scaleDown (num den : Nat) (exponent : Int) : Nat × Nat :=
  (num * twoTo (-exponent).toNat, den * twoTo exponent.toNat)

/-- The power of two that a significand of 53 bits counts for a positive quotient. -/
def unitExponent (num den : Nat) : Int :=
  let guess : Int := (Nat.log2 num : Int) - Nat.log2 den - 52
  let (n, d) := scaleDown num den guess
  max (if n < twoTo 52 * d then guess - 1 else guess) leastExponent

/-- The number nearest to the quotient of two naturals; infinite beyond the format's range. -/
def ofRatio (negative : Bool) (num den : Nat) : Binary64 :=
  if num = 0 then signedZero negative
  else
    let exponent := unitExponent num den
    let (n, d) := scaleDown num den exponent
    let q := roundHalfEven n d
    let (significand, exponent) := if q = twoTo 53 then (twoTo 52, exponent + 1) else (q, exponent)
    if greatestExponent < exponent then .infinite negative
    else .finite negative significand exponent

/-- The number nearest to `digits * 10 ^ exponent`. -/
def ofDecimal (negative : Bool) (digits : Nat) (exponent : Int) : Binary64 :=
  if digits = 0 then signedZero negative
  else
    let magnitude : Int := (Nat.log2 digits : Int) * 3 / 10 + exponent
    if 400 < magnitude then .infinite negative
    else if magnitude < -500 then signedZero negative
    else ofRatio negative (digits * tenTo exponent.toNat) (tenTo (-exponent).toNat)

/-- The number nearest to an integer. -/
def ofInt (n : Int) : Binary64 :=
  ofRatio (n < 0) n.natAbs 1

/-- The number that a sign, a biased exponent and a fraction encode, in a format with the given
number of fraction bits and the given largest biased exponent. -/
def ofFields (fractionBits greatest : Nat) (negative : Bool) (biased fraction : Nat) : Binary64 :=
  let bias : Int := (greatest : Int) / 2 + fractionBits
  if biased = greatest then
    if fraction = 0 then .infinite negative else .nan
  else
    let (significand, exponent) : Nat × Int :=
      if biased = 0 then (fraction, 1 - bias) else (twoTo fractionBits + fraction, biased - bias)
    ofRatio negative (significand * twoTo exponent.toNat) (twoTo (-exponent).toNat)

/-- The number with the given bits of the 64-bit format. -/
def ofBits (bits : Nat) : Binary64 :=
  ofFields 52 2047 (bits / twoTo 63 % 2 = 1) (bits / twoTo 52 % twoTo 11) (bits % twoTo 52)

/-- The number with the given bits of the 32-bit format. -/
def ofBits32 (bits : Nat) : Binary64 :=
  ofFields 23 255 (bits / twoTo 31 % 2 = 1) (bits / twoTo 23 % twoTo 8) (bits % twoTo 23)

/-- A finite number as a signed numerator over a positive denominator. -/
def toRatio? : Binary64 → Option (Int × Nat)
  | .finite negative significand exponent =>
    let num : Int := significand * twoTo exponent.toNat
    some (if negative then -num else num, twoTo (-exponent).toNat)
  | _ => none

/-- The integer that a number equals, if there is one. -/
def toInt? (x : Binary64) : Option Int :=
  match x.toRatio? with
  | some (num, den) => if num % den = 0 then some (num / den) else none
  | none => none

/-- Whether a number is zero, of either sign. -/
def isZero : Binary64 → Bool
  | .finite _ significand _ => significand == 0
  | _ => false

/-- Numerical equality: zeros of both signs are equal, and nothing equals a NaN. -/
def numEq : Binary64 → Binary64 → Bool
  | .nan, _ => false
  | _, .nan => false
  | .infinite s, .infinite t => s == t
  | x, y =>
    match x.toRatio?, y.toRatio? with
    | some (a, b), some (c, d) => a * d == c * b
    | _, _ => false

/-- The nearest number to a sum of two finite numbers; other sums are NaN. -/
def add (x y : Binary64) : Binary64 :=
  match x.toRatio?, y.toRatio? with
  | some (a, b), some (c, d) =>
    let num := a * d + c * b
    ofRatio (num < 0) num.natAbs (b * d)
  | _, _ => .nan

/-- The nearest number to a product of two finite numbers; other products are NaN. -/
def mul (x y : Binary64) : Binary64 :=
  match x.toRatio?, y.toRatio? with
  | some (a, b), some (c, d) => ofRatio (a * c < 0) (a * c).natAbs (b * d)
  | _, _ => .nan

/-- The number with its sign changed. -/
def neg : Binary64 → Binary64
  | .finite s m e => .finite (!s) m e
  | .infinite s => .infinite (!s)
  | .nan => .nan

/-! ## Decimal text -/

/-- The place of the first significant digit: the `e` with `10 ^ e ≤ num / den < 10 ^ (e + 1)`,
searched downward from `start`. -/
def leadingPlace (num den : Nat) : (fuel : Nat) → (start : Int) → Int
  | 0, e => e
  | fuel + 1, e =>
    if den * tenTo e.toNat ≤ num * tenTo (-e).toNat then e else leadingPlace num den fuel (e - 1)

/-- Of the two neighbours of a positive number on the grid of multiples of `10 ^ place`, the nearer
one that reads back as the number. -/
def onGrid? (x : Binary64) (num den : Nat) (place : Int) : Option Nat :=
  let n := num * tenTo (-place).toNat
  let d := den * tenTo place.toNat
  let low := n / d
  let nearest := roundHalfEven n d
  let other := if nearest = low then low + 1 else low
  if ofDecimal false nearest place = x then some nearest
  else if ofDecimal false other place = x then some other
  else none

/-- The first grid, from `count` digits on, that has a decimal reading back as the number. -/
def shortestFrom (x : Binary64) (num den : Nat) (leading : Int) :
    (fuel count : Nat) → Nat × Int
  | 0, count => (roundHalfEven num den, leading - count)
  | fuel + 1, count =>
    let place := leading - count + 1
    match onGrid? x num den place with
    | some digits => (digits, place)
    | none => shortestFrom x num den leading fuel (count + 1)

/-- Drops zeros at the end of the digits and moves the place accordingly. -/
def dropTrailingZeros : (fuel : Nat) → Nat × Int → Nat × Int
  | 0, d => d
  | fuel + 1, (digits, place) =>
    if digits ≠ 0 ∧ digits % 10 = 0 then dropTrailingZeros fuel (digits / 10, place + 1)
    else (digits, place)

/-- The shortest decimal `digits * 10 ^ place` that reads back as the magnitude of a number. -/
def shortest (significand : Nat) (exponent : Int) : Nat × Int :=
  if significand = 0 then (0, 0)
  else
    let num := significand * twoTo exponent.toNat
    let den := twoTo (-exponent).toNat
    let leading := leadingPlace num den 700 310
    dropTrailingZeros 20 (shortestFrom (.finite false significand exponent) num den leading 17 1)

/-- How numbers are written: which places of the first digit are written without an exponent, and
the words for what is not finite. -/
structure Format where
  leastPositional : Int
  greatestPositional : Int
  infinity : String
  nan : String

/-- The digits of a decimal laid out with a point and at least one digit on either side. -/
def positional (digits : List Char) (place : Int) : List Char :=
  let split := (digits.length : Int) + place
  if 0 ≤ place then digits ++ List.replicate place.toNat '0' ++ ['.', '0']
  else if 0 < split then digits.take split.toNat ++ '.' :: digits.drop split.toNat
  else '0' :: '.' :: List.replicate (-split).toNat '0' ++ digits

/-- The digits of a decimal with one digit before the point and a signed exponent of at least two
digits. -/
def scientific (digits : List Char) (leading : Int) : List Char :=
  let fraction := digits.drop 1
  let exponent := (Nat.repr leading.natAbs).toList
  digits.take 1 ++ (if fraction.isEmpty then [] else '.' :: fraction) ++
    'e' :: (if leading < 0 then '-' else '+') ::
    (if exponent.length < 2 then '0' :: exponent else exponent)

/-- The text of a number. -/
def render (format : Format) : Binary64 → String
  | .nan => format.nan
  | .infinite negative => (if negative then "-" else "") ++ format.infinity
  | .finite negative significand exponent =>
    let (number, place) := shortest significand exponent
    let digits := (Nat.repr number).toList
    let leading := (digits.length : Int) - 1 + place
    let body :=
      if format.leastPositional ≤ leading ∧ leading ≤ format.greatestPositional then
        positional digits place
      else scientific digits leading
    (if negative then "-" else "") ++ String.ofList body

end Binary64

end Nullability
