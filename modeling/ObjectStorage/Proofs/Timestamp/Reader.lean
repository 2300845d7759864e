import Mathlib.Algebra.Group.Nat.Defs
import Mathlib.Data.List.DropRight
import ObjectStorage.DateTime
import ObjectStorage.Proofs.Json.Quoted
import ObjectStorage.Proofs.Timestamp.Calendar

/-! A timestamp is read back from its text, so that unequal timestamps have unequal texts. -/

namespace ObjectStorage.Timestamp

/-- The number that the digits at the front of a text give, and the rest. -/
def leadingNumber (text : List Char) : Nat × List Char :=
  (Text.digitsValue (text.takeWhile Char.isDigit), text.dropWhile Char.isDigit)

/-- The year at the front of a text, which may have a sign, and the rest. -/
def leadingYear : List Char → Int × List Char
  | '-' :: text => (-((leadingNumber text).1 : Int), (leadingNumber text).2)
  | text => ((leadingNumber text).1, (leadingNumber text).2)

/-- The nanoseconds in a fraction of a second, which may be missing, at the end of a text. -/
def nanosecond? : List Char → Option Nat
  | ['Z'] => some 0
  | '.' :: text =>
    let digits := text.takeWhile Char.isDigit
    if text.dropWhile Char.isDigit = ['Z'] then
      -- The zeros behind these digits were left out.
      some (Text.digitsValue (digits ++ List.replicate (9 - digits.length) '0'))
    else none
  | _ => none

/-- Reads the date and time of a timestamp in UTC. -/
def ofText? (text : List Char) : Option Timestamp := do
  let (year, text) := leadingYear text
  let (month, text) := leadingNumber (← DateTime.mark? ['-'] text)
  let (day, text) := leadingNumber (← DateTime.mark? ['-'] text)
  let (hour, text) := leadingNumber (← DateTime.mark? ['T'] text)
  let (minute, text) := leadingNumber (← DateTime.mark? [':'] text)
  let (second, text) := leadingNumber (← DateTime.mark? [':'] text)
  let nanosecond ← nanosecond? text
  return ofParts (Day.count ⟨year, month, day⟩ * 86400 + ((hour * 60 + minute) * 60 + second : Nat))
    nanosecond

section Digits

variable {width n : Nat}

/-- What is written for a number is digits. -/
theorem isDigit_of_mem_padded {c : Char} (member : c ∈ padded width n) : c.isDigit = true := by
  -- It is one of the zeros in front, or one of the digits of the number.
  rcases List.mem_append.mp member with zero | digit
  · rw [List.eq_of_mem_replicate zero]
    rfl
  · exact Nat.isDigit_of_mem_toDigits (by decide) (by decide) digit

/-- Zeros in front of digits do not change their value. -/
theorem digitsValue_replicate_append (count : Nat) (digits : List Char) :
    Text.digitsValue (List.replicate count '0' ++ digits) = Text.digitsValue digits := by
  -- One zero after another is left out.
  induction count with
  | zero => rfl
  | succ count ih =>
    rw [← ih]
    rfl

variable (width n)

/-- The digits that are written for a number have its value. -/
theorem digitsValue_padded : Text.digitsValue (padded width n) = n := by
  -- The zeros in front can be left out, and then the digits are those of the number.
  rw [padded, digitsValue_replicate_append, Json.digitsValue_toDigits]

/-- There is a digit for every number. -/
theorem padded_ne_nil : padded width n ≠ [] :=
  List.append_ne_nil_of_right_ne_nil _ Nat.toDigits_ne_nil

/-- A number that fits is written in digits of the width that is asked for. -/
theorem length_padded (wide : 0 < width) (fits : n < 10 ^ width) :
    (padded width n).length = width := by
  -- The number has no more digits than the width, and zeros fill up the rest.
  have few := (Nat.length_toDigits_le_iff (b := 10) (by decide) wide).mpr fits
  rw [padded, List.length_append, List.length_replicate]
  omega

/-- A number is read up to the first character that is no digit. -/
theorem leadingNumber_padded {rest : List Char} (stops : ∀ c ∈ rest.head?, c.isDigit = false) :
    leadingNumber (padded width n ++ rest) = (n, rest) := by
  -- The stretch of digits ends where the rest begins.
  obtain ⟨digits, behind⟩ := Json.span_digits (fun c => isDigit_of_mem_padded) stops
  rw [leadingNumber, digits, behind, digitsValue_padded]

/-- A number is read up to a mark. -/
theorem leadingNumber_padded_cons {mark : Char} (rest : List Char) (marks : mark.isDigit = false) :
    leadingNumber (padded width n ++ mark :: rest) = (n, mark :: rest) :=
  leadingNumber_padded width n fun _ first => Option.some.inj first ▸ marks

end Digits

/-- A year is read up to the hyphen behind it. -/
theorem leadingYear_yearDigits (year : Int) (rest : List Char) :
    leadingYear (yearDigits year ++ '-' :: rest) = (year, '-' :: rest) := by
  -- The sign is written only for negative years.
  unfold yearDigits
  split
  case isTrue negative =>
    rw [List.cons_append, leadingYear, leadingNumber_padded_cons _ _ rest (by decide)]
    simp only [Prod.mk.injEq, and_true]
    omega
  case isFalse whole =>
    -- The text begins with a digit, which is no sign.
    obtain ⟨c, digits, split⟩ := List.exists_cons_of_ne_nil (padded_ne_nil 4 year.natAbs)
    have digit : c.isDigit = true := isDigit_of_mem_padded (split ▸ List.mem_cons_self)
    have read := leadingNumber_padded_cons 4 year.natAbs rest (show '-'.isDigit = false by decide)
    rw [split, List.cons_append] at read ⊢
    rw [leadingYear, read]
    · simp only [Prod.mk.injEq, and_true]
      omega
    · intro text same
      obtain rfl := (List.cons.inj same).1
      exact absurd digit (by decide)

/-- Zeros that were left out at the end of digits are filled in again. -/
theorem trimmed_append_replicate (digits : List Char) :
    digits.rdropWhile (· = '0') ++
      List.replicate (digits.length - (digits.rdropWhile (· = '0')).length) '0' = digits := by
  -- What was left out is zeros, as many as are missing.
  have zeros : digits.rtakeWhile (· = '0') =
      List.replicate (digits.rtakeWhile (· = '0')).length '0' :=
    List.eq_replicate_of_mem fun c member => by simpa using List.mem_rtakeWhile_imp member
  have split := @List.rdropWhile_append_rtakeWhile _ (fun c => decide (c = '0')) digits
  have length := congrArg List.length split
  rw [List.length_append] at length
  rw [← length, Nat.add_sub_cancel_left, ← zeros, split]

/-- The fraction of a second is read as its nanoseconds. -/
theorem nanosecond?_fractionDigits {nanosecond : Nat} (fits : nanosecond < 10 ^ 9) :
    nanosecond? (fractionDigits nanosecond ++ ['Z']) = some nanosecond := by
  -- A fraction that is zero is not written at all.
  unfold fractionDigits
  split
  case isTrue zero =>
    subst zero
    rfl
  case isFalse positive =>
    have trimmed : ∀ c ∈ (padded 9 nanosecond).rdropWhile (· = '0'), c.isDigit = true :=
      fun c member => isDigit_of_mem_padded ((List.rdropWhile_prefix _ _).mem member)
    obtain ⟨digits, behind⟩ := Json.span_digits trimmed (show ∀ c ∈ ['Z'].head?, _ by simp)
    -- Filled up to nine places the digits are those that were written at first.
    have filled := trimmed_append_replicate (padded 9 nanosecond)
    rw [length_padded 9 nanosecond (by decide) fits] at filled
    change nanosecond? ('.' :: ((padded 9 nanosecond).rdropWhile (· = '0') ++ ['Z'])) = _
    rw [nanosecond?, digits, behind, filled, digitsValue_padded]
    rfl

/-- A mark is passed over. -/
theorem mark?_cons (mark : Char) (rest : List Char) :
    DateTime.mark? [mark] (mark :: rest) = some rest := by
  -- The mark is the first character.
  simp [DateTime.mark?]

/-- A timestamp is read back from its text. -/
theorem ofText?_text (time : Timestamp) : ofText? time.text.toList = some time := by
  -- A timestamp is whole seconds and a fraction, and whole seconds are days and a time of day.
  obtain ⟨nanoseconds⟩ := time
  have fits : (nanoseconds % perSecond).toNat < 10 ^ 9 := by
    simp only [perSecond]
    omega
  have fraction := nanosecond?_fractionDigits fits
  -- Behind the seconds there is a point or the letter of the zone.
  have stops : ∀ c ∈ (fractionDigits (nanoseconds % perSecond).toNat ++ ['Z']).head?,
      c.isDigit = false := by
    unfold fractionDigits
    split <;> simp
  -- Field after field is read up to its mark.
  simp only [text, String.toList_ofList, ofText?, List.append_assoc, List.cons_append,
    leadingYear_yearDigits, mark?_cons, Option.bind_some, Option.bind_eq_bind,
    leadingNumber_padded_cons _ _ _ (show '-'.isDigit = false by decide),
    leadingNumber_padded_cons _ _ _ (show 'T'.isDigit = false by decide),
    leadingNumber_padded_cons _ _ _ (show ':'.isDigit = false by decide),
    leadingNumber_padded _ _ stops, fraction]
  -- The date is counted as the day that it was made from.
  have day := Day.count_ofCount (nanoseconds / perSecond / 86400)
  refine congrArg (fun nanoseconds => some (Timestamp.mk nanoseconds)) ?_
  rw [day]
  simp only [perSecond]
  omega

end ObjectStorage.Timestamp
