/-
Points of time on the UTC clock: a day number, a second of the day and nanoseconds. A leap second
shares its second of the day with the one before it and has a nanosecond count of a billion or more.
-/

import CachingGateway.Text.Ascii
import CachingGateway.Time.Calendar

namespace CachingGateway

structure Moment where
  day : Int
  secondOfDay : Nat
  nanosecond : Nat
  deriving DecidableEq, Repr

namespace Moment

def ofNanoseconds (nanoseconds : Int) : Moment :=
  let seconds := nanoseconds / 1000000000
  ⟨seconds / 86400, (seconds % 86400).toNat, (nanoseconds % 1000000000).toNat⟩

/-- Seconds since the start of 1970, leap seconds not counted. -/
def seconds (moment : Moment) : Int :=
  moment.day * 86400 + moment.secondOfDay

/-- Nanoseconds from `now` to the moment. A leap second at an earlier time of day than `now` has
already been counted once by its nanoseconds and loses a second. -/
def since (moment now : Moment) : Int :=
  let leap : Int :=
    if moment.secondOfDay < now.secondOfDay ∧ 1000000000 ≤ moment.nanosecond then 1 else 0
  (moment.seconds - now.seconds - leap) * 1000000000 +
    ((moment.nanosecond : Int) - (now.nanosecond : Int))

def yearText (year : Int) : List Char :=
  if 0 ≤ year ∧ year ≤ 9999 then Ascii.padded 4 year.toNat
  else (if year < 0 then '-' else '+') :: Ascii.padded 4 year.natAbs

/-- The fraction of a second in the fewest groups of three digits, nothing when it is zero. -/
def fractionText (nanosecond : Nat) : List Char :=
  if nanosecond = 0 then []
  else if nanosecond % 1000000 = 0 then '.' :: Ascii.padded 3 (nanosecond / 1000000)
  else if nanosecond % 1000 = 0 then '.' :: Ascii.padded 6 (nanosecond / 1000)
  else '.' :: Ascii.padded 9 nanosecond

def timestamp (moment : Moment) : String :=
  let date := Date.ofDayNumber moment.day
  String.ofList
    (yearText date.year ++ '-' :: Ascii.padded 2 date.month ++ '-' :: Ascii.padded 2 date.day ++
      'T' :: Ascii.padded 2 (moment.secondOfDay / 3600) ++
      ':' :: Ascii.padded 2 (moment.secondOfDay / 60 % 60) ++
      ':' :: Ascii.padded 2 (moment.secondOfDay % 60) ++
      fractionText moment.nanosecond ++ "+00:00".toList)

end Moment

end CachingGateway
