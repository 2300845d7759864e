import ObjectStorage.Number.Rounding

/-! Rounding of non-negative rationals to the numbers with a significand of 53 bits. -/

namespace ObjectStorage.Number

/-- A power of two with an exponent of either sign. -/
def powerOfTwo : Int → Rat
  | .ofNat exponent => (Nat.pow 2 exponent : Rat)
  | .negSucc exponent => mkRat 1 (Nat.pow 2 (exponent + 1))

/-- The exponent of the largest power of two that is not above a positive rational. -/
def binaryExponent (q : Rat) : Int :=
  -- The quotient of the leading powers is off by at most one place.
  let guess : Int := (q.num.natAbs.log2 : Int) - (q.den.log2 : Int)
  if q < powerOfTwo guess then guess - 1 else guess

/-- The 53-bit number nearest to a non-negative rational; a tie goes to the even significand.
Exponents are unbounded, which is exact for all quotients of 64-bit numbers. -/
def binary64 (q : Rat) : Rat :=
  if q.num = 0 then 0
  else
    -- In this unit the number has 53 bits in front of the point.
    let unit := powerOfTwo (binaryExponent q - 52)
    let units := q / unit
    (roundHalfEven units.num.natAbs units.den : Nat) * unit

/-- The 53-bit number nearest to a natural number, which is a natural number again. -/
def binary64OfNat (n : Nat) : Nat :=
  let unit := Nat.pow 2 (n.log2 - 52)
  roundHalfEven n unit * unit

end ObjectStorage.Number
