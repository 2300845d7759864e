import ObjectStorage.Number.Binary64

/-! Sizes for human readers, in units of powers of 1024. -/

namespace ObjectStorage.HumanSize

/-- The units, each 1024 times the one before. -/
def units : List String := ["B", "KiB", "MiB", "GiB", "TiB", "PiB", "EiB"]

/-- The unit for a size: the largest that is not above it. Its index is its power of 1024. -/
def unitIndex (size : Nat) : Nat := min (size.log2 / 10) 6

/-- A quotient in decimal, with two places unless it is whole up to 2^-52. A half in the third
place goes to the even neighbour. -/
def quotientText (numerator denominator : Nat) : String :=
  if numerator % denominator * Nat.pow 2 52 ≤ denominator then toString (numerator / denominator)
  else
    -- Two places are shown even if they are zeros.
    let hundredths := Number.roundHalfEven (numerator * 100) denominator
    let places := hundredths % 100
    s!"{hundredths / 100}." ++ (if places < 10 then "0" else "") ++ toString places

/-- A number of bytes with its unit. The number is first rounded to 53 bits. -/
def text (bytes : Nat) : String :=
  let size := Number.binary64OfNat bytes
  let index := unitIndex size
  quotientText size (Nat.pow 1024 index) ++ " " ++ units[index]?.getD ""

end ObjectStorage.HumanSize
