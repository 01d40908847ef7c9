import TensorLang.Time.Duration

/-!
# Points in time

A point in time is a number of nanoseconds since the beginning of the year 1970, without leap
seconds, and is written as a date and a time of day in coordinated universal time.
-/

namespace TensorLang.Instant

/-- Nanoseconds in a second. -/
def perSecond : Int := 1000000000

/-- A day of the calendar. -/
structure Day where
  year : Int
  month : Nat
  day : Nat
  deriving DecidableEq, Repr

/-- The calendar day that lies `n` days after the first of January 1970. Years are counted from
March, so that the leap day comes last, in eras of 400 years. -/
def dayOf (n : Int) : Day :=
  let z := n + 719468
  let era := Int.fdiv z 146097
  let doe := (z - era * 146097).toNat
  let yoe := (doe - doe / 1460 + doe / 36524 - doe / 146096) / 365
  let doy := doe - (365 * yoe + yoe / 4 - yoe / 100)
  let mp := (5 * doy + 2) / 153
  let month := if mp < 10 then mp + 3 else mp - 9
  let year : Int := (yoe : Int) + era * 400
  ⟨if month ≤ 2 then year + 1 else year, month, doy - (153 * mp + 2) / 5 + 1⟩

/-- Date and time with as many places of a second as are needed. -/
def text (t : Int) : Bytes :=
  let seconds := Int.fdiv t perSecond
  let nanos := (t - seconds * perSecond).toNat
  let days := Int.fdiv seconds 86400
  let rest := (seconds - days * 86400).toNat
  let d := dayOf days
  let fraction := Bytes.trimRight (· == 48) (Decimal.padded 9 nanos)
  Decimal.padded 4 d.year.toNat ++ "-".utf8 ++ Decimal.padded 2 d.month ++ "-".utf8 ++
    Decimal.padded 2 d.day ++ "T".utf8 ++ Decimal.padded 2 (rest / 3600) ++ ":".utf8 ++
    Decimal.padded 2 (rest / 60 % 60) ++ ":".utf8 ++ Decimal.padded 2 (rest % 60) ++
    (if fraction.isEmpty then [] else [46] ++ fraction) ++ "Z".utf8

end TensorLang.Instant
