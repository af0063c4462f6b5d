import Kmip.Nanos

/-!
# Dates and times

An instant is a Unix second with a fraction, shown at an offset from UTC. Calendar dates follow the
Gregorian rules, extended to the years before them; the year 0 precedes the year 1.
-/

namespace Kmip

/-- A day of the calendar. -/
structure Date where
  year : Int
  month : Nat
  day : Nat
deriving DecidableEq, Repr

namespace Date

/-- Whether a year has a 29th of February. -/
def isLeap (year : Int) : Bool :=
  year % 4 = 0 ∧ (year % 100 ≠ 0 ∨ year % 400 = 0)

/-- How many days a month has; none when there is no such month. -/
def monthLength (year : Int) (month : Nat) : Nat :=
  if month = 2 then (if isLeap year then 29 else 28)
  else if month = 4 ∨ month = 6 ∨ month = 9 ∨ month = 11 then 30
  else if 1 ≤ month ∧ month ≤ 12 then 31
  else 0

/-- Whether the calendar has this day. -/
def IsValid (date : Date) : Prop :=
  1 ≤ date.day ∧ date.day ≤ monthLength date.year date.month

instance (date : Date) : Decidable date.IsValid :=
  inferInstanceAs (Decidable (_ ∧ _))

/-- The days from the first of January 1970. Years are counted from March, so that the day added in
leap years is the last of its year, and in cycles of 400 years, which all have the same length. -/
def toDays (date : Date) : Int :=
  let year := if date.month ≤ 2 then date.year - 1 else date.year
  let month : Int := (date.month + 9) % 12
  let cycle := year / 400
  let yearOfCycle := year % 400
  let dayOfYear := (153 * month + 2) / 5 + date.day - 1
  let dayOfCycle := yearOfCycle * 365 + yearOfCycle / 4 - yearOfCycle / 100 + dayOfYear
  cycle * 146097 + dayOfCycle - 719468

/-- The day that comes so many days after the first of January 1970. -/
def ofDays (days : Int) : Date :=
  let shifted := days + 719468
  let cycle := shifted / 146097
  let dayOfCycle := shifted % 146097
  let yearOfCycle :=
    (dayOfCycle - dayOfCycle / 1460 + dayOfCycle / 36524 - dayOfCycle / 146096) / 365
  let dayOfYear := dayOfCycle - (365 * yearOfCycle + yearOfCycle / 4 - yearOfCycle / 100)
  let month := (5 * dayOfYear + 2) / 153
  let day := dayOfYear - (153 * month + 2) / 5 + 1
  let year := yearOfCycle + cycle * 400
  { year := if 10 ≤ month then year + 1 else year
    month := (if month < 10 then month + 3 else month - 9).toNat
    day := day.toNat }

end Date

/-- An instant, and the offset at which it is shown. -/
structure DateTime where
  /-- The last whole Unix second at or before the instant. -/
  seconds : Int
  /-- The nanoseconds from that second to the instant. -/
  nanos : Nanos
  /-- The seconds by which local time is ahead of UTC. -/
  offset : Int
deriving DecidableEq, Repr

namespace DateTime

/-- A whole second, shown in UTC. -/
def ofSeconds (seconds : Int) : DateTime where
  seconds
  nanos := .zero
  offset := 0

/-- The first of January 1970. -/
def epoch : DateTime :=
  ofSeconds 0

instance : Inhabited DateTime := ⟨epoch⟩

/-- The first second of the year -9999. -/
def earliest : Int := -377705116800

/-- The last second of the year 9999. -/
def latest : Int := 253402300799

/-- The instant of a second within the years -9999 to 9999. -/
def ofUnix? (seconds : Int) : Option DateTime :=
  if earliest ≤ seconds ∧ seconds ≤ latest then some (ofSeconds seconds) else none

/-- The instant cut to its whole second, and shown in UTC. -/
def floor (time : DateTime) : DateTime :=
  ofSeconds time.seconds

/-- The seconds of local time since the first of January 1970, as a clock at the offset counts. -/
def localSeconds (time : DateTime) : Int :=
  time.seconds + time.offset

/-- The local day. -/
def date (time : DateTime) : Date :=
  Date.ofDays (time.localSeconds / 86400)

/-- The seconds since local midnight. -/
def secondOfDay (time : DateTime) : Nat :=
  (time.localSeconds % 86400).toNat

/-- The local hour. -/
def hour (time : DateTime) : Nat :=
  time.secondOfDay / 3600

/-- The minute of the local hour. -/
def minute (time : DateTime) : Nat :=
  time.secondOfDay / 60 % 60

/-- The second of the local minute. -/
def second (time : DateTime) : Nat :=
  time.secondOfDay % 60

/-- The fraction of the second, without zeros at its end; empty when there is none. -/
def fractionDigits (time : DateTime) : List Char :=
  Decimal.fraction (Decimal.padded 9 time.nanos.val)

/-- A year in four digits, with a sign when it is before the year 0 or after the year 9999. -/
def yearText (year : Int) : List Char :=
  if year < 0 then '-' :: Decimal.padded 4 year.natAbs
  else if 9999 < year then '+' :: Decimal.padded 4 year.natAbs
  else Decimal.padded 4 year.natAbs

/-- The local date, the local time and the offset, one blank apart; the hour is not padded. -/
def text (time : DateTime) : String :=
  let date := time.date
  let fraction := time.fractionDigits
  let offset := time.offset.natAbs
  String.ofList <|
    yearText date.year ++ '-' :: Decimal.padded 2 date.month ++ '-' :: Decimal.padded 2 date.day ++
    ' ' :: Decimal.ofNat time.hour ++ ':' :: Decimal.padded 2 time.minute ++
    ':' :: Decimal.padded 2 time.second ++ '.' :: (if fraction.isEmpty then ['0'] else fraction) ++
    ' ' :: (if time.offset < 0 then '-' else '+') :: Decimal.padded 2 (offset / 3600) ++
    ':' :: Decimal.padded 2 (offset / 60 % 60) ++ ':' :: Decimal.padded 2 (offset % 60)

end DateTime

end Kmip
