import Kmip.DateTime

/-!
# Dates and times as RFC 3339 text

The text holds a local year of four digits and an offset in hours and minutes; instants that need
more are refused. A text may hold a leap second where one can fall, at the end of a month in UTC; it
is read as the last nanosecond before it.
-/

namespace Kmip.DateTime.Rfc3339

/-- Why an instant has no text. -/
inductive Fault where
  /-- The local year has more than four digits or is negative. -/
  | year
  /-- The offset is a day or more. -/
  | offsetHour
  /-- The offset is not a whole number of minutes. -/
  | offsetSecond
deriving DecidableEq, Repr

/-- The part of the text that an instant does not fit. -/
def Fault.component : Fault → String
  | .year => "year"
  | .offsetHour => "offset_hour"
  | .offsetSecond => "offset_second"

/-- The text of a refusal. -/
def Fault.message (fault : Fault) : String :=
  s!"The {fault.component} component cannot be formatted into the requested format."

/-- The offset of a text: a letter for UTC itself, hours and minutes after a sign for all others. -/
def offsetText (offset : Int) : List Char :=
  if offset = 0 then ['Z']
  else
    (if offset < 0 then '-' else '+') :: Decimal.padded 2 (offset.natAbs / 3600) ++
      ':' :: Decimal.padded 2 (offset.natAbs / 60 % 60)

/-- The text of an instant. -/
def format (time : DateTime) : Except Fault String :=
  let date := time.date
  let fraction := time.fractionDigits
  if date.year < 0 ∨ 9999 < date.year then .error .year
  else if 86400 ≤ time.offset.natAbs then .error .offsetHour
  else if time.offset % 60 ≠ 0 then .error .offsetSecond
  else
    .ok <| String.ofList <|
      Decimal.padded 4 date.year.natAbs ++ '-' :: Decimal.padded 2 date.month ++
      '-' :: Decimal.padded 2 date.day ++ 'T' :: Decimal.padded 2 time.hour ++
      ':' :: Decimal.padded 2 time.minute ++ ':' :: Decimal.padded 2 time.second ++
      (if fraction.isEmpty then [] else '.' :: fraction) ++ offsetText time.offset

/-- What follows a given character. -/
def after? (mark : Char) : List Char → Option (List Char)
  | c :: rest => if c = mark then some rest else none
  | [] => none

/-- What follows any one character of a single byte. -/
def afterSeparator? : List Char → Option (List Char)
  | c :: rest => if c.toNat < 128 then some rest else none
  | [] => none

/-- The nanoseconds of a fraction, and what follows its digits; digits beyond the ninth are dropped. -/
def fraction? (text : List Char) : Option (Nanos × List Char) :=
  match after? '.' text with
  | none => some (.zero, text)
  | some rest => do
    let digits := rest.takeWhile fun c => (Decimal.digitValue? c).isSome
    guard (¬ digits.isEmpty)
    let kept := digits.take 9
    let nanos ← Decimal.valueFrom? 0 (kept ++ List.replicate (9 - kept.length) '0')
    pure (← Nanos.ofNat? nanos, rest.drop digits.length)

/-- The offset at the end of a text, which nothing may follow. -/
def offset? : List Char → Option Int
  | ['Z'] | ['z'] => some 0
  | sign :: rest => do
    guard (sign = '+' ∨ sign = '-')
    let (hours, rest) ← Decimal.takeDigits? 2 rest
    guard (hours ≤ 23)
    let rest ← after? ':' rest
    let (minutes, rest) ← Decimal.takeDigits? 2 rest
    guard (minutes ≤ 59 ∧ rest.isEmpty)
    let seconds : Int := (hours * 3600 + minutes * 60 : Nat)
    pure (if sign = '-' then -seconds else seconds)
  | [] => none

/-- Whether an instant is the last second of a month in UTC. -/
def endsMonth (time : DateTime) : Bool :=
  let date := Date.ofDays (time.seconds / 86400)
  time.seconds % 86400 = 86399 ∧ date.day = Date.monthLength date.year date.month

/-- The instant of a text. -/
def parse (text : String) : Option DateTime := do
  let (year, rest) ← Decimal.takeDigits? 4 text.toList
  let (month, rest) ← Decimal.takeDigits? 2 (← after? '-' rest)
  let (day, rest) ← Decimal.takeDigits? 2 (← after? '-' rest)
  let (hour, rest) ← Decimal.takeDigits? 2 (← afterSeparator? rest)
  let (minute, rest) ← Decimal.takeDigits? 2 (← after? ':' rest)
  let (second, rest) ← Decimal.takeDigits? 2 (← after? ':' rest)
  let (nanos, rest) ← fraction? rest
  let offset ← offset? rest
  let date : Date := ⟨year, month, day⟩
  guard (date.IsValid ∧ hour ≤ 23 ∧ minute ≤ 59 ∧ second ≤ 60)
  let seconds : Nat → Int := fun second =>
    date.toDays * 86400 + (hour * 3600 + minute * 60 + second : Nat) - offset
  if second = 60 then
    let last : DateTime := ⟨seconds 59, .last, offset⟩
    if endsMonth last then some last else none
  else some ⟨seconds second, nanos, offset⟩

end Kmip.DateTime.Rfc3339
