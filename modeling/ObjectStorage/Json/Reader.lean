import ObjectStorage.Json.Value
import ObjectStorage.Text.Digits

/-! Reading JSON text. Numbers are whole here, and an escape stands for a whole character:
fractions, exponents and halves of surrogate pairs are refused. -/

namespace ObjectStorage.Json

/-- Whether a character may stand between the parts of a JSON text. -/
def isBlank (c : Char) : Bool := c == ' ' || c == '\t' || c == '\n' || c == '\r'

/-- A text without the blanks at its front. -/
def skipBlanks (text : List Char) : List Char := text.dropWhile isBlank

/-- The character that a letter behind a backslash stands for. -/
def meaning? : Char → Option Char
  | '"' => some '"'
  | '\\' => some '\\'
  | '/' => some '/'
  | 'b' => some '\x08'
  | 'f' => some '\x0c'
  | 'n' => some '\n'
  | 'r' => some '\r'
  | 't' => some '\t'
  | _ => none

/-- The value of a hexadecimal digit. -/
def hexValue? (c : Char) : Option Nat :=
  if c.isDigit then some (c.toNat - '0'.toNat)
  else if 'a' ≤ c ∧ c ≤ 'f' then some (c.toNat - 'a'.toNat + 10)
  else if 'A' ≤ c ∧ c ≤ 'F' then some (c.toNat - 'A'.toNat + 10)
  else none

/-- The character with the code point that four digits give. -/
def fromHex? (first second third fourth : Char) : Option Char := do
  let code := ((← hexValue? first) * 16 + (← hexValue? second)) * 256
    + ((← hexValue? third) * 16 + (← hexValue? fourth))
  if code.isValidChar then some (Char.ofNat code) else none

/-- Reads the inside of a string up to the quote that ends it, and gives the rest too. -/
def unquote? : List Char → Option (List Char × List Char)
  | [] => none
  | '"' :: rest => some ([], rest)
  -- Four digits are read as a whole before any single letter is.
  | '\\' :: 'u' :: first :: second :: third :: fourth :: rest => do
    let meant ← fromHex? first second third fourth
    let (others, behind) ← unquote? rest
    return (meant :: others, behind)
  | '\\' :: letter :: rest => do
    let meant ← meaning? letter
    let (others, behind) ← unquote? rest
    return (meant :: others, behind)
  | c :: rest => do
    -- Controls must be escaped, and a backslash at the end escapes nothing.
    if c.toNat < 0x20 ∨ c = '\\' then none
    else
      let (others, behind) ← unquote? rest
      return (c :: others, behind)

/-- Reads the digits of a whole number, which has no needless zero at its front and no fraction or
exponent behind it. -/
def readDigits? (text : List Char) : Option (Nat × List Char) :=
  let digits := text.takeWhile Char.isDigit
  let behind := text.dropWhile Char.isDigit
  if digits.isEmpty ∨ (digits.head? = some '0' ∧ 1 < digits.length)
      ∨ behind.head?.any fun c => c == '.' || c == 'e' || c == 'E' then none
  else some (Text.digitsValue digits, behind)

/-- Reads a whole number of either sign. -/
def readNumber? : List Char → Option (Int × List Char)
  | '-' :: text => (readDigits? text).map fun (value, behind) => (-(value : Int), behind)
  | text => (readDigits? text).map fun (value, behind) => ((value : Int), behind)

mutual

/-- Reads a value at the front of a text. Each step uses one unit of `fuel`. -/
def readValue? : (fuel : Nat) → List Char → Option (Json × List Char)
  | 0, _ => none
  | fuel + 1, text =>
    match skipBlanks text with
    | 'n' :: 'u' :: 'l' :: 'l' :: behind => some (.null, behind)
    | 't' :: 'r' :: 'u' :: 'e' :: behind => some (.bool true, behind)
    | 'f' :: 'a' :: 'l' :: 's' :: 'e' :: behind => some (.bool false, behind)
    | '"' :: inside => (unquote? inside).map fun (content, behind) =>
      (.string (String.ofList content), behind)
    -- An array or an object without content is told apart before its first part is read.
    | '[' :: inside =>
      match skipBlanks inside with
      | ']' :: behind => some (.array [], behind)
      | _ => (readItems? fuel inside).map fun (items, behind) => (.array items, behind)
    | '\x7b' :: inside =>
      match skipBlanks inside with
      | '\x7d' :: behind => some (.object [], behind)
      | _ => (readMembers? fuel inside).map fun (members, behind) => (.object members, behind)
    -- All that is left is a number or no value.
    | other => (readNumber? other).map fun (value, behind) => (.number value, behind)

/-- Reads the items of an array up to the bracket that ends it. There is one at least. -/
def readItems? : (fuel : Nat) → List Char → Option (List Json × List Char)
  | 0, _ => none
  | fuel + 1, text =>
    match readValue? fuel text with
    | none => none
    | some (item, behind) =>
      match skipBlanks behind with
      | ']' :: behind => some ([item], behind)
      | ',' :: text => (readItems? fuel text).map fun (items, behind) => (item :: items, behind)
      | _ => none

/-- Reads the members of an object up to the brace that ends it. There is one at least. -/
def readMembers? : (fuel : Nat) → List Char → Option (List (String × Json) × List Char)
  | 0, _ => none
  | fuel + 1, text =>
    match readMember? fuel text with
    | none => none
    | some (member, behind) =>
      match skipBlanks behind with
      | '\x7d' :: behind => some ([member], behind)
      | ',' :: text =>
        (readMembers? fuel text).map fun (members, behind) => (member :: members, behind)
      | _ => none

/-- Reads one member of an object: a name, a colon and a value. -/
def readMember? : (fuel : Nat) → List Char → Option ((String × Json) × List Char)
  | 0, _ => none
  | fuel + 1, text =>
    match skipBlanks text with
    | '"' :: inside =>
      match unquote? inside with
      | none => none
      | some (name, behind) =>
        match skipBlanks behind with
        | ':' :: text => (readValue? fuel text).map fun (value, behind) =>
          ((String.ofList name, value), behind)
        | _ => none
    | _ => none

end

/-- The value that a text is, with nothing but blanks around it. No value takes more than three
steps for each of its characters. -/
def parse? (text : List Char) : Option Json :=
  match readValue? (3 * text.length + 1) text with
  | some (value, behind) => if behind.all isBlank then some value else none
  | none => none

end ObjectStorage.Json
