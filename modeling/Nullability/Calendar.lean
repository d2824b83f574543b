import Nullability.Failure

/-!
# Points in time

Times are counted in nanoseconds since the start of 1970 and shown as dates in universal time. The
count of seconds is taken as a binary floating point number first, so that a shown time is the
nearest microsecond of the nearest such number.
-/

namespace Nullability

/-- The date of a day counted from the start of 1970: the year and the day in it. The count is
moved to the first of March of year zero, so that a leap day is the last day of its year; 400 years
have 146097 days. -/
def civilDate (days : Int) : Int × Nat × Nat :=
  let shifted := days + 719468
  let era := shifted.fdiv 146097
  let dayOfEra := (shifted - era * 146097).toNat
  let yearOfEra :=
    (dayOfEra - dayOfEra / 1460 + dayOfEra / 36524 - dayOfEra / 146096) / 365
  let dayOfYear := dayOfEra - (365 * yearOfEra + yearOfEra / 4 - yearOfEra / 100)
  let monthFromMarch := (5 * dayOfYear + 2) / 153
  let day := dayOfYear - (153 * monthFromMarch + 2) / 5 + 1
  let month := if monthFromMarch < 10 then monthFromMarch + 3 else monthFromMarch - 9
  let year : Int := yearOfEra + era * 400
  (if month ≤ 2 then year + 1 else year, month, day)

/-- The nearest integer to a quotient with a natural denominator; a half goes to the even
neighbour. -/
def roundIntHalfEven (num : Int) (den : Nat) : Int :=
  if num < 0 then -(roundHalfEven num.natAbs den : Int) else roundHalfEven num.natAbs den

/-- Whole seconds and microseconds of a number of seconds; the microseconds are those nearest to
the fraction times a million, itself a floating point number. -/
def splitSeconds (x : Binary64) : Option (Int × Int) :=
  match x.toRatio? with
  | none => none
  | some (num, den) =>
    let whole := num.tdiv den
    let fraction := Binary64.ofRatio (num < 0) (num - whole * den).natAbs den
    match (fraction.mul (Binary64.ofInt 1000000)).toRatio? with
    | none => none
    | some (num, den) =>
      let micros := roundIntHalfEven num den
      if 1000000 ≤ micros then some (whole + 1, micros - 1000000)
      else if micros < 0 then some (whole - 1, micros + 1000000)
      else some (whole, micros)

/-- The moment of a time in nanoseconds, in universal time. -/
def Moment.ofNanoseconds (nanoseconds : Int) : Except Failure Moment :=
  match splitSeconds (Binary64.ofRatio (nanoseconds < 0) nanoseconds.natAbs 1000000000) with
  | none => .error .outOfRange
  | some (seconds, micros) =>
    if seconds < -0x8000000000000000 ∨ 0x8000000000000000 ≤ seconds then .error .outOfRange
    else
      let days := seconds.fdiv 86400
      let second := (seconds - days * 86400).toNat
      let (year, month, day) := civilDate days
      if year - 1900 < -0x80000000 ∨ 0x80000000 ≤ year - 1900 then .error .systemLimit
      else if year < 1 ∨ 9999 < year then .error .badValue
      else
        .ok ⟨⟨year.toNat, month, day⟩, second / 3600, second / 60 % 60, second % 60,
          micros.toNat, some 0⟩

end Nullability
