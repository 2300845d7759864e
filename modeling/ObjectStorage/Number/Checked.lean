import ObjectStorage.Number.Rounding

/-! Arithmetic on unsigned 64-bit numbers that reports a result out of range. -/

namespace ObjectStorage.Number

/-- Why an operation on unsigned 64-bit numbers has no result. -/
inductive ArithmeticFault where
  | addOverflow
  | subtractOverflow
  | multiplyOverflow
  | divideByZero
  deriving DecidableEq, Repr

/-- The text of an arithmetic fault. -/
def ArithmeticFault.message : ArithmeticFault → String
  | .addOverflow => "attempt to add with overflow"
  | .subtractOverflow => "attempt to subtract with overflow"
  | .multiplyOverflow => "attempt to multiply with overflow"
  | .divideByZero => "attempt to divide by zero"

/-- One more than the largest unsigned 64-bit number: two to the power of 64. -/
def wordLimit : Nat := 18446744073709551616

/-- The sum, if it fits into 64 bits. -/
def checkedAdd (a b : Nat) : Except ArithmeticFault Nat :=
  if a + b < wordLimit then .ok (a + b) else .error .addOverflow

/-- The difference, if it is not negative. -/
def checkedSub (a b : Nat) : Except ArithmeticFault Nat :=
  if b ≤ a then .ok (a - b) else .error .subtractOverflow

/-- The product, if it fits into 64 bits. -/
def checkedMul (a b : Nat) : Except ArithmeticFault Nat :=
  if a * b < wordLimit then .ok (a * b) else .error .multiplyOverflow

/-- The quotient rounded up, if the divisor is not zero. -/
def checkedCeilDiv (a b : Nat) : Except ArithmeticFault Nat :=
  if b = 0 then .error .divideByZero else .ok (ceilDiv a b)

end ObjectStorage.Number
