/-! Rounding a quotient of natural numbers to the nearest natural number. -/

namespace ObjectStorage.Number

/-- The natural number nearest to `numerator / denominator`; a half goes to the even neighbour. -/
def roundHalfEven (numerator denominator : Nat) : Nat :=
  let floor := numerator / denominator
  -- Twice the rest is compared, since half the divisor may not be whole.
  let doubled := 2 * (numerator % denominator)
  if doubled < denominator then floor
  else if denominator < doubled then floor + 1
  else if floor % 2 = 0 then floor
  else floor + 1

/-- The least natural number that is not below `numerator / denominator`. -/
def ceilDiv (numerator denominator : Nat) : Nat :=
  (numerator + denominator - 1) / denominator

end ObjectStorage.Number
