import Mathlib.Order.Bounds.Defs
import ObjectStorage.Proofs.Upload.Layout

/-! The part size for a file is the least that makes few enough parts, and it never shrinks when the
file or the wished part size grows. -/

namespace ObjectStorage.Upload

open Number

/-- A larger file has no smaller share. -/
theorem ceilDiv_mono {smaller larger divisor : Nat} (positive : 0 < divisor)
    (more : smaller ≤ larger) : ceilDiv smaller divisor ≤ ceilDiv larger divisor := by
  -- So many divisors reach the larger number, and therefore the smaller one too.
  rw [ceilDiv_le_iff positive]
  exact Nat.le_trans more ((ceilDiv_le_iff positive).mp (Nat.le_refl _))

/-- The part sizes that a sizing allows for a file: those that are not below the wished one and make
no more parts than the service takes. -/
def Sizing.Allowed (sizing : Sizing) (fileSize : Nat) : Set Nat :=
  {partSize | sizing.partSize ≤ partSize ∧
    ∃ count, partCount fileSize partSize = .ok count ∧ count ≤ maxParts}

/-- A part size is allowed just if it is not below the wished one or an even share of the file. -/
theorem Sizing.mem_allowed_iff {sizing : Sizing} (acceptable : Acceptable sizing.partSize)
    {fileSize partSize : Nat} :
    partSize ∈ sizing.Allowed fileSize ↔
      sizing.partSize ≤ partSize ∧ ceilDiv fileSize maxParts ≤ partSize := by
  -- So many parts hold the file just if each is no smaller than an even share of it.
  refine and_congr_right fun wished => ?_
  have positive : 0 < partSize := Nat.lt_of_lt_of_le acceptable.positive wished
  rw [partCount, checkedCeilDiv_eq positive, ← ceilDiv_le_comm positive (by decide)]
  simp

/-- How the part size that is chosen depends on the file and on the part size that is wished for. -/
structure Grows (sizing : Sizing) : Prop where
  /-- Of all part sizes that are allowed the least is chosen. -/
  least : ∀ fileSize, fileSize ≤ maxParts * maxPartSize →
    ∃ partSize, sizing.partSizeFor fileSize = .ok partSize ∧
      IsLeast (sizing.Allowed fileSize) partSize
  /-- A share that is taken in place of the wished size is never raised to the least size of a part,
  but it may be lowered to the greatest. -/
  unraised : ∀ fileSize count, partCount fileSize sizing.partSize = .ok count →
    maxParts < count →
    clampPartSize (ceilDiv fileSize maxParts) = min (ceilDiv fileSize maxParts) maxPartSize
  /-- A larger file has no smaller parts. -/
  monotone : ∀ smaller larger, smaller ≤ larger →
    ∃ lesser greater, sizing.partSizeFor smaller = .ok lesser ∧
      sizing.partSizeFor larger = .ok greater ∧ lesser ≤ greater
  /-- A larger wish gives no smaller parts. -/
  wished : ∀ (choices : List Sizing.Choice) (fileSize : Nat),
    sizing.partSize ≤ (Sizing.ofChoices choices).partSize →
    ∃ lesser greater, sizing.partSizeFor fileSize = .ok lesser ∧
      (Sizing.ofChoices choices).partSizeFor fileSize = .ok greater ∧ lesser ≤ greater

/-- Whatever sizing is chosen, the part size grows no further than it has to. -/
theorem partSize_grows_least (choices : List Sizing.Choice) : Grows (.ofChoices choices) := by
  -- The size that is chosen has a closed form, from which all four fields are read.
  have acceptable := Sizing.acceptable_ofChoices choices
  have chosen := Sizing.partSizeFor_eq_max acceptable
  constructor
  case least =>
    intro fileSize fits
    refine ⟨_, chosen fileSize, ?_⟩
    -- Up to this file size an even share can be a part, so nothing is cut off.
    have share : ceilDiv fileSize maxParts ≤ maxPartSize :=
      (ceilDiv_le_iff (by decide)).mpr (by rwa [Nat.mul_comm])
    rw [Nat.min_eq_left share]
    constructor
    · rw [Sizing.mem_allowed_iff acceptable]
      exact ⟨Nat.le_max_left _ _, Nat.le_max_right _ _⟩
    · intro candidate allowed
      obtain ⟨above, enough⟩ := (Sizing.mem_allowed_iff acceptable).mp allowed
      exact Nat.max_le.mpr ⟨above, enough⟩
  case unraised =>
    intro fileSize count counted many
    obtain rfl : ceilDiv fileSize (Sizing.ofChoices choices).partSize = count := by
      rw [partCount, checkedCeilDiv_eq acceptable.positive] at counted
      exact Except.ok.inj counted
    -- The wished size is below an even share, and no wished size is below the least one.
    have short : (Sizing.ofChoices choices).partSize < ceilDiv fileSize maxParts := by
      rwa [← Nat.not_le, ← ceilDiv_le_comm acceptable.positive (by decide), Nat.not_le]
    have bounds : minPartSize ≤ maxPartSize := by decide
    have least := acceptable.least
    rw [clampPartSize]
    omega
  case monotone =>
    intro smaller larger more
    refine ⟨_, _, chosen smaller, chosen larger, ?_⟩
    -- The closed form grows with the share, and the share grows with the file.
    have share : ceilDiv smaller maxParts ≤ ceilDiv larger maxParts := ceilDiv_mono (by decide) more
    omega
  case wished =>
    intro others fileSize more
    -- The wished size stands in the closed form as it is.
    have other := Sizing.partSizeFor_eq_max (Sizing.acceptable_ofChoices others) fileSize
    refine ⟨_, _, chosen fileSize, other, ?_⟩
    omega

/-- One byte more than 10,000 parts of the wished size hold makes every part one byte larger. -/
example : (Sizing.ofChoices []).partSizeFor (8388608 * 10000) = .ok 8388608 ∧
    (Sizing.ofChoices []).partSizeFor (8388608 * 10000 + 1) = .ok 8388609 := ⟨rfl, rfl⟩

end ObjectStorage.Upload
