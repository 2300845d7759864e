/-! Quoted JSON strings: quotes, backslashes and the characters below U+0020 are escaped, and every
other character stands for itself. -/

namespace ObjectStorage.Json

/-- A hexadecimal digit in lower case. -/
def hexDigit (n : Nat) : Char := Nat.digitChar n

/-- The written form of one character inside quotes. -/
def escaped (c : Char) : List Char :=
  if c = '"' then ['\\', '"']
  else if c = '\\' then ['\\', '\\']
  else if c = '\x08' then ['\\', 'b']
  else if c = '\x0c' then ['\\', 'f']
  else if c = '\n' then ['\\', 'n']
  else if c = '\r' then ['\\', 'r']
  else if c = '\t' then ['\\', 't']
  -- All other controls have two digits at most.
  else if c.toNat < 0x20 then
    ['\\', 'u', '0', '0', hexDigit (c.toNat / 16), hexDigit (c.toNat % 16)]
  else [c]

/-- The written form of a text, without the quotes around it. -/
def encode (text : List Char) : List Char := text.flatMap escaped

/-- A text as a JSON string, quotes included. -/
def quoted (text : String) : List Char := '"' :: encode text.toList ++ ['"']

end ObjectStorage.Json
