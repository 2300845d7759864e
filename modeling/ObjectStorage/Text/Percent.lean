/-! Percent-encoding of text in addresses. -/

namespace ObjectStorage.Text

/-- Whether a byte may stand for itself in every part of an address. -/
def isUnreserved (b : UInt8) : Bool :=
  let c := Char.ofNat b.toNat
  c.isAlphanum || c == '-' || c == '.' || c == '_' || c == '~'

/-- A hexadecimal digit in upper case. -/
def upperHexDigit (n : Nat) : Char := (Nat.digitChar n).toUpper

/-- A byte in an address: itself, or a percent sign and two digits. -/
def percentByte (safe : UInt8 → Bool) (b : UInt8) : List Char :=
  if safe b then [Char.ofNat b.toNat]
  else ['%', upperHexDigit (b.toNat / 16), upperHexDigit (b.toNat % 16)]

/-- Text in an address, byte by byte. -/
def percentEncode (safe : UInt8 → Bool) (text : String) : String :=
  String.ofList (text.toUTF8.toList.flatMap (percentByte safe))

/-- Text in the path of an address, where slashes stand for themselves. -/
def percentPath (text : String) : String :=
  percentEncode (fun b => isUnreserved b || b == 0x2f) text

/-- Text in the query of an address. -/
def percentQuery (text : String) : String := percentEncode isUnreserved text

end ObjectStorage.Text
