/-! Numbers as decimal digits. -/

namespace ObjectStorage.Text

/-- The value of decimal digits. -/
def digitsValue (digits : List Char) : Nat :=
  digits.foldl (fun value c => value * 10 + (c.toNat - '0'.toNat)) 0

end ObjectStorage.Text
