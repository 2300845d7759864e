import ObjectStorage.Text.Digits
import ObjectStorage.Timestamp

/-! Reading the date and time of day that a service writes, with any offset from UTC. -/

namespace ObjectStorage.DateTime

/-- A number of so many digits at the start of a text, and the rest. -/
def digits? (count : Nat) (text : List Char) : Option (Nat × List Char) :=
  let read := text.take count
  if read.length = count ∧ read.all Char.isDigit then
    some (Text.digitsValue read, text.drop count)
  else none

/-- The rest behind one of some characters at the start of a text. -/
def mark? (marks : List Char) : List Char → Option (List Char)
  | [] => none
  | c :: rest => if marks.contains c then some rest else none

/-- Whether a year has a 29th of February. -/
def isLeap (year : Nat) : Bool := year % 4 == 0 && (year % 100 != 0 || year % 400 == 0)

/-- The number of days in a month. -/
def daysIn (year month : Nat) : Nat :=
  if month = 2 then (if isLeap year then 29 else 28)
  else if [4, 6, 9, 11].contains month then 30 else 31

/-- The seconds that an offset from UTC takes back. -/
def offset? (text : List Char) : Option Int :=
  match text with
  | ['Z'] | ['z'] => some 0
  | sign :: rest => do
    let (hours, rest) ← digits? 2 rest
    let rest ← mark? [':'] rest
    let (minutes, rest) ← digits? 2 rest
    -- Nothing may follow the offset.
    if rest.isEmpty ∧ hours ≤ 23 ∧ minutes ≤ 59 then
      let seconds : Int := (hours * 60 + minutes) * 60
      if sign == '+' then some seconds else if sign == '-' then some (-seconds) else none
    else none
  | [] => none

/-- The rest behind a fraction of a second, which has one digit at least. -/
def skipFraction? (text : List Char) : Option (List Char) :=
  match text with
  | '.' :: rest =>
    if rest.head?.any Char.isDigit then some (rest.dropWhile Char.isDigit) else none
  | _ => some text

/-- The whole second of a date and time such as `2023-11-14T22:13:20.5Z`, counted from
1970-01-01T00:00:00Z. -/
def second? (text : List Char) : Option Int := do
  let (year, text) ← digits? 4 text
  let (month, text) ← digits? 2 (← mark? ['-'] text)
  let (day, text) ← digits? 2 (← mark? ['-'] text)
  let (hour, text) ← digits? 2 (← mark? ['T', 't', ' '] text)
  let (minute, text) ← digits? 2 (← mark? [':'] text)
  let (second, text) ← digits? 2 (← mark? [':'] text)
  -- A fraction of a second does not change the whole second.
  let offset ← offset? (← skipFraction? text)
  if 1 ≤ month ∧ month ≤ 12 ∧ 1 ≤ day ∧ day ≤ daysIn year month ∧ hour ≤ 23 ∧ minute ≤ 59
      ∧ second ≤ 59 then
    let days := Timestamp.Day.count ⟨year, month, day⟩
    some (days * 86400 + ((hour * 60 + minute) * 60 + second : Nat) - offset)
  else none

end ObjectStorage.DateTime
