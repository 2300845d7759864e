import ObjectStorage.Text.GraphemeExtend
import ObjectStorage.Text.Unprintable

/-! Quoted text for diagnostics: what cannot be seen on a screen is written by its code point. -/

namespace ObjectStorage.Text

/-- A code point in braces, in lower-case hexadecimal. -/
def codePoint (c : Char) : List Char :=
  ['\\', 'u', '\x7b'] ++ Nat.toDigits 16 c.toNat ++ ['\x7d']

/-- The written form of one character inside quotes. -/
def escaped (c : Char) : List Char :=
  if c = '\x00' then ['\\', '0']
  else if c = '\t' then ['\\', 't']
  else if c = '\r' then ['\\', 'r']
  else if c = '\n' then ['\\', 'n']
  else if c = '"' then ['\\', '"']
  else if c = '\\' then ['\\', '\\']
  else if isCombiningMark c || isUnprintable c then codePoint c
  else [c]

/-- Text in double quotes for a diagnostic. -/
def quoted (text : String) : String :=
  String.ofList ('"' :: text.toList.flatMap escaped ++ ['"'])

end ObjectStorage.Text
