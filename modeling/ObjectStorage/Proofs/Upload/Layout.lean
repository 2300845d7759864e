import Mathlib.Algebra.Group.Nat.Defs
import ObjectStorage.Upload.Layout

/-! Every sizing that can be chosen cuts every file into parts that lie side by side, within the
numbers that the service and the machine have. -/

namespace ObjectStorage

namespace Number

/-- A quotient rounded up is within a bound exactly when that many divisors reach the numerator. -/
theorem ceilDiv_le_iff {numerator denominator bound : Nat} (positive : 0 < denominator) :
    ceilDiv numerator denominator ≤ bound ↔ numerator ≤ bound * denominator := by
  -- One less than the divisor is added before dividing, which is just what a rest can be.
  rw [ceilDiv, Nat.div_le_iff_le_mul_add_pred positive, Nat.mul_comm]
  omega

/-- A number is below a quotient rounded up exactly when that many divisors miss the numerator. -/
theorem lt_ceilDiv_iff {numerator denominator number : Nat} (positive : 0 < denominator) :
    number < ceilDiv numerator denominator ↔ number * denominator < numerator := by
  -- This is the law above, read the other way round.
  rw [← Nat.not_le, ceilDiv_le_iff positive, Nat.not_le]

/-- Divisor and bound of a quotient rounded up can change places. -/
theorem ceilDiv_le_comm {numerator denominator bound : Nat} (positive : 0 < denominator)
    (bounded : 0 < bound) :
    ceilDiv numerator denominator ≤ bound ↔ ceilDiv numerator bound ≤ denominator := by
  -- On both sides the product has to reach the numerator.
  rw [ceilDiv_le_iff positive, ceilDiv_le_iff bounded, Nat.mul_comm]

/-- A quotient with a divisor that is not zero can be calculated. -/
theorem checkedCeilDiv_eq {a b : Nat} (positive : 0 < b) : checkedCeilDiv a b = .ok (ceilDiv a b) :=
  if_neg (Nat.ne_of_gt positive)

end Number

namespace Upload

open Number

/-- A part size within the range that the service takes. -/
structure Acceptable (partSize : Nat) : Prop where
  least : minPartSize ≤ partSize
  most : partSize ≤ maxPartSize

/-- An acceptable part holds some bytes. -/
theorem Acceptable.positive {partSize : Nat} (acceptable : Acceptable partSize) : 0 < partSize :=
  Nat.lt_of_lt_of_le (by decide) acceptable.least

/-- A part size is acceptable once it was brought into the range. -/
theorem acceptable_clampPartSize (size : Nat) : Acceptable (clampPartSize size) where
  least := Nat.le_max_left _ _
  most := Nat.max_le.mpr ⟨by decide, Nat.min_le_right _ _⟩

namespace Sizing

/-- A choice keeps the part size acceptable. -/
theorem acceptable_choose {sizing : Sizing} (acceptable : Acceptable sizing.partSize)
    (choice : Choice) : Acceptable (sizing.choose choice).partSize := by
  -- A part size that is chosen is brought into the range at once.
  cases choice with
  -- The threshold does not matter for the part size.
  | threshold size => exact acceptable
  | partSize size => exact acceptable_clampPartSize size

/-- Whatever is chosen, the part size is acceptable. -/
theorem acceptable_ofChoices (choices : List Choice) :
    Acceptable (ofChoices choices).partSize := by
  -- The default is acceptable, and each choice keeps it so.
  have general : ∀ sizing : Sizing, Acceptable sizing.partSize →
      Acceptable (choices.foldl choose sizing).partSize := by
    induction choices with
    | nil => exact fun _ acceptable => acceptable
    | cons choice rest ih =>
      exact fun sizing acceptable => ih _ (acceptable_choose acceptable choice)
  exact general {} ⟨by decide, by decide⟩

/-- The part size for a file, where the wished one is acceptable. -/
theorem partSizeFor_eq {sizing : Sizing} (acceptable : Acceptable sizing.partSize)
    (fileSize : Nat) :
    sizing.partSizeFor fileSize = .ok
      (if ceilDiv fileSize sizing.partSize ≤ maxParts then sizing.partSize
        else clampPartSize (ceilDiv fileSize maxParts)) := by
  -- Neither divisor is zero, so both quotients can be calculated.
  simp only [partSizeFor, checkedCeilDiv_eq acceptable.positive, Bind.bind, Except.bind]
  split <;> rfl

/-- The part size for a file is the wished one, or an even share of the file where that is more, as
far as a part can be so large. -/
theorem partSizeFor_eq_max {sizing : Sizing} (acceptable : Acceptable sizing.partSize)
    (fileSize : Nat) :
    sizing.partSizeFor fileSize = .ok
      (max sizing.partSize (min (ceilDiv fileSize maxParts) maxPartSize)) := by
  -- Either the wished size makes few parts, or the file is shared evenly.
  have least := acceptable.least
  have most := acceptable.most
  rw [partSizeFor_eq acceptable]
  congr 1
  split
  case isTrue few =>
    -- An even share is no more than the wished size.
    rw [ceilDiv_le_comm acceptable.positive (by decide)] at few
    omega
  case isFalse many =>
    -- An even share is more than the wished size, and so it is enough for a part.
    rw [ceilDiv_le_comm acceptable.positive (by decide)] at many
    rw [clampPartSize]
    omega

/-- The part size for a file is acceptable, and it is at least the wished one. With it the file has
no more parts than the service takes, unless the parts are already as large as they can be. -/
theorem partSizeFor_spec {sizing : Sizing} (acceptable : Acceptable sizing.partSize)
    (fileSize : Nat) :
    ∃ partSize, sizing.partSizeFor fileSize = .ok partSize ∧ Acceptable partSize ∧
      sizing.partSize ≤ partSize ∧
      (ceilDiv fileSize partSize ≤ maxParts ∨ partSize = maxPartSize) := by
  -- The size has a closed form, and its bounds are those of its members.
  have least := acceptable.least
  have most := acceptable.most
  have chosen : Acceptable (max sizing.partSize (min (ceilDiv fileSize maxParts) maxPartSize)) :=
    ⟨by omega, by omega⟩
  refine ⟨_, partSizeFor_eq_max acceptable fileSize, chosen, Nat.le_max_left _ _, ?_⟩
  rcases Nat.le_total (ceilDiv fileSize maxParts) maxPartSize with fits | large
  · -- Even shares that the service takes make few enough parts.
    refine .inl ((ceilDiv_le_comm chosen.positive (by decide)).mpr ?_)
    rw [Nat.min_eq_left fits]
    exact Nat.le_max_right _ _
  · -- Even shares would be too large, so the parts are as large as they can be.
    rw [Nat.min_eq_right large]
    exact .inr (Nat.max_eq_right most)

end Sizing

/-- The layout of a file of which nothing overflows: its part size and its number of parts. -/
structure Laid (sizing : Sizing) (fileSize partSize count : Nat) : Prop where
  chosen : sizing.partSizeFor fileSize = .ok partSize
  counted : partCount fileSize partSize = .ok count
  positive : 0 < partSize
  /-- The parts have 32-bit numbers. -/
  numbered : count < 2 ^ 31
  /-- No part begins behind the end of the file. -/
  reached : ∀ number, number < count ↔ number * partSize < fileSize
  ranges : ∀ number, 1 ≤ number → number ≤ count →
    partRange number partSize fileSize =
      .ok ⟨(number - 1) * partSize, min (number * partSize) fileSize⟩

/-- The range of a part of which nothing overflows. -/
theorem partRange_eq {number partSize fileSize : Nat} (positive : 1 ≤ number)
    (fits : number * partSize < wordLimit) :
    partRange number partSize fileSize =
      .ok ⟨(number - 1) * partSize, min (number * partSize) fileSize⟩ := by
  -- One step of the calculation after another stays within the machine's numbers.
  obtain ⟨before, rfl⟩ := Nat.exists_eq_add_of_le' positive
  have sum : before * partSize + partSize = (before + 1) * partSize := (Nat.succ_mul _ _).symm
  -- The start is smaller than the end, so it fits as well.
  have product : before * partSize < wordLimit := by omega
  simp [partRange, checkedSub, checkedMul, checkedAdd, product, sum, fits, Bind.bind, Except.bind,
    Pure.pure, Except.pure]

/-- A file of less than 8 EiB is laid out without overflow, whatever sizing was chosen. -/
theorem exists_laid (choices : List Sizing.Choice) {fileSize : Nat} (small : fileSize < 2 ^ 63) :
    ∃ partSize count, Laid (.ofChoices choices) fileSize partSize count := by
  -- With an acceptable part size the count is a quotient rounded up.
  obtain ⟨partSize, chosen, acceptable, -, few⟩ :=
    Sizing.partSizeFor_spec (Sizing.acceptable_ofChoices choices) fileSize
  have most : partSize ≤ 5368709120 := acceptable.most
  refine ⟨partSize, ceilDiv fileSize partSize, chosen, checkedCeilDiv_eq acceptable.positive,
    acceptable.positive, ?_, fun number => lt_ceilDiv_iff acceptable.positive, ?_⟩
  · -- Parts of the greatest size are few, since the file is small.
    rcases few with few | rfl
    · exact Nat.lt_of_le_of_lt few (by decide)
    · have bound : ceilDiv fileSize maxPartSize ≤ 2 ^ 31 - 1 := by
        rw [ceilDiv_le_iff acceptable.positive, maxPartSize]
        omega
      omega
  · intro number first last
    -- The part before this one ends within the file, so this one ends shortly behind it at most.
    have inside : (number - 1) * partSize < fileSize :=
      (lt_ceilDiv_iff acceptable.positive).mp (by omega)
    have sum : number * partSize = (number - 1) * partSize + partSize := by
      rw [← Nat.succ_mul, Nat.succ_eq_add_one, Nat.sub_add_cancel first]
    refine partRange_eq first ?_
    simp only [wordLimit]
    omega

/-- The bytes of the parts that come first are the beginning of the file. -/
theorem joined_ranges (bytes : ByteArray) (partSize count : Nat) :
    ((List.range' 1 count).map fun number =>
      bytes.extract ((number - 1) * partSize) (min (number * partSize) bytes.size)).foldl
        (· ++ ·) ByteArray.empty = bytes.extract 0 (min (count * partSize) bytes.size) := by
  -- Each further part begins where the beginning so far ends.
  induction count with
  | zero => simp
  | succ count ih =>
    rw [List.range'_1_concat, List.map_append, List.foldl_append, ih]
    simp only [List.map_cons, List.map_nil, List.foldl_cons, List.foldl_nil,
      Nat.add_sub_cancel_left]
    have further : count * partSize ≤ (count + 1) * partSize :=
      Nat.mul_le_mul_right _ (Nat.le_succ count)
    rw [Nat.add_comm 1 count]
    rcases Nat.le_total (count * partSize) bytes.size with within | beyond
    · -- Both pieces meet where the parts so far end.
      rw [Nat.min_eq_left within, ByteArray.extract_append_extract]
      congr 1
      omega
    · -- The file has ended before, so this part has no bytes.
      have nothing : bytes.extract (count * partSize)
          (min ((count + 1) * partSize) bytes.size) = ByteArray.empty :=
        ByteArray.extract_eq_empty_iff.mpr (by omega)
      rw [nothing, ByteArray.append_empty]
      congr 1
      omega

end Upload

end ObjectStorage
