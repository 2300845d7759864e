/-! Points in time and their text in UTC. -/

namespace ObjectStorage

/-- A point in time, as nanoseconds since 1970-01-01T00:00:00Z. -/
structure Timestamp where
  nanoseconds : Int
  deriving DecidableEq, Repr

namespace Timestamp

/-- Nanoseconds in a second. -/
def perSecond : Int := 1000000000

/-- The earliest second that a timestamp can have. -/
def firstSecond : Int := -377705023201

/-- The latest second that a timestamp can have. -/
def lastSecond : Int := 253402207200

/-- The timestamp that is the given nanoseconds after a second. -/
def ofParts (second nanosecond : Int) : Timestamp := ⟨second * perSecond + nanosecond⟩

/-- The timestamp at a whole second, unless it is out of range. -/
def ofSecond? (second : Int) : Option Timestamp :=
  if firstSecond ≤ second ∧ second ≤ lastSecond then some (ofParts second 0) else none

/-- A day of the proleptic Gregorian calendar. -/
structure Day where
  year : Int
  month : Nat
  day : Nat
  deriving DecidableEq, Repr

/-- The calendar day that lies the given number of days after 1970-01-01. -/
def Day.ofCount (count : Int) : Day :=
  -- Years start in March here, so that a leap day is the last of its year, and 400 years repeat.
  let shifted := count + 719468
  let era := shifted / 146097
  let dayOfEra := (shifted % 146097).toNat
  let yearOfEra :=
    (dayOfEra - dayOfEra / 1460 + dayOfEra / 36524 - dayOfEra / 146096) / 365
  let dayOfYear := dayOfEra - (365 * yearOfEra + yearOfEra / 4 - yearOfEra / 100)
  let marchMonth := (5 * dayOfYear + 2) / 153
  let day := dayOfYear - (153 * marchMonth + 2) / 5 + 1
  let month := if marchMonth < 10 then marchMonth + 3 else marchMonth - 9
  let year := era * 400 + yearOfEra + (if month ≤ 2 then 1 else 0)
  ⟨year, month, day⟩

/-- How many days after 1970-01-01 a date lies. -/
def Day.count (date : Day) : Int :=
  -- January and February belong to the year before, which started in March.
  let marchYear := if date.month ≤ 2 then date.year - 1 else date.year
  let marchMonth := if date.month ≤ 2 then date.month + 9 else date.month - 3
  let yearOfEra := marchYear % 400
  let dayOfYear := (153 * marchMonth + 2) / 5 + (date.day - 1)
  marchYear / 400 * 146097 + (yearOfEra * 365 + yearOfEra / 4 - yearOfEra / 100) + dayOfYear
    - 719468

/-- A number in decimal digits, filled up with zeros in front to the given width. -/
def padded (width n : Nat) : List Char :=
  let digits := Nat.toDigits 10 n
  List.replicate (width - digits.length) '0' ++ digits

/-- A year in four digits; a negative one with its sign and six digits. -/
def yearDigits (year : Int) : List Char :=
  if year < 0 then '-' :: padded 6 year.natAbs else padded 4 year.natAbs

/-- A fraction of a second given in nanoseconds, without trailing zeros; empty for none. -/
def fractionDigits (nanosecond : Nat) : List Char :=
  if nanosecond = 0 then []
  else '.' :: ((padded 9 nanosecond).reverse.dropWhile (· = '0')).reverse

/-- The date and time of a timestamp in UTC, such as `2023-11-14T22:13:20.5Z`. -/
def text (time : Timestamp) : String :=
  -- Both are rounded down, also before 1970, so that the fraction is never negative.
  let second := time.nanoseconds / perSecond
  let nanosecond := (time.nanoseconds % perSecond).toNat
  let day := Day.ofCount (second / 86400)
  let secondOfDay := (second % 86400).toNat
  String.ofList <|
    yearDigits day.year ++ '-' :: padded 2 day.month ++ '-' :: padded 2 day.day
      ++ 'T' :: padded 2 (secondOfDay / 3600) ++ ':' :: padded 2 (secondOfDay / 60 % 60)
      ++ ':' :: padded 2 (secondOfDay % 60) ++ fractionDigits nanosecond ++ ['Z']

end Timestamp

end ObjectStorage
