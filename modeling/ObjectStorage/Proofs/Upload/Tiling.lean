import Mathlib.Order.Basic
import ObjectStorage.Proofs.Upload.Layout

/-! The parts of a file lie side by side and cover it, and of all of them only the last can be out
of the range of 64-bit numbers. -/

namespace ObjectStorage.Upload

open Number

/-- Whether a byte of a file lies in a part. A part that cannot be calculated holds no bytes. -/
def Holds (number partSize fileSize offset : Nat) : Prop :=
  ∃ range, partRange number partSize fileSize = .ok range ∧
    range.start ≤ offset ∧ offset < range.stop

/-- How a file is cut into so many parts. -/
structure Tiles (fileSize partSize count : Nat) : Prop where
  nothing : count = 0 ↔ fileSize = 0
  /-- A part cannot be calculated just if it is the last and all parts together exceed 64 bits. -/
  faults : ∀ number, 1 ≤ number → number ≤ count → ∀ fault,
    partRange number partSize fileSize = .error fault ↔
      fault = .addOverflow ∧ number = count ∧ wordLimit ≤ count * partSize
  inside : ∀ number range, 1 ≤ number → number ≤ count →
    partRange number partSize fileSize = .ok range →
      range.start < range.stop ∧ range.stop ≤ fileSize
  first : ∀ range, 1 ≤ count → partRange 1 partSize fileSize = .ok range → range.start = 0
  last : ∀ range, 1 ≤ count → partRange count partSize fileSize = .ok range →
    range.stop = fileSize ∧ range.stop - range.start ≤ partSize
  adjacent : ∀ number range next, 1 ≤ number → number < count →
    partRange number partSize fileSize = .ok range →
    partRange (number + 1) partSize fileSize = .ok next → range.stop = next.start
  full : ∀ number range, 1 ≤ number → number < count →
    partRange number partSize fileSize = .ok range → range.stop - range.start = partSize
  /-- A byte lies in exactly one part, unless it would lie in a part that cannot be calculated. -/
  once : ∀ offset, offset < fileSize →
    ((∃! number, (1 ≤ number ∧ number ≤ count) ∧ Holds number partSize fileSize offset) ↔
      ¬ (wordLimit ≤ count * partSize ∧ (count - 1) * partSize ≤ offset))

section Ranges

variable {number partSize fileSize : Nat}

/-- A part ends its size behind its start. -/
theorem stop_eq (partSize : Nat) (positive : 1 ≤ number) :
    number * partSize = (number - 1) * partSize + partSize := by
  -- One part more is one part size more.
  rw [← Nat.succ_mul, Nat.succ_eq_add_one, Nat.sub_add_cancel positive]

/-- A part that starts in range and ends out of it overflows when its end is calculated. -/
theorem partRange_overflows (positive : 1 ≤ number)
    (starts : (number - 1) * partSize < wordLimit) (exceeds : wordLimit ≤ number * partSize) :
    partRange number partSize fileSize = .error .addOverflow := by
  -- The start can be calculated, and the end is the first number that cannot.
  have sum : ¬ (number - 1) * partSize + partSize < wordLimit := by
    rw [← stop_eq partSize positive]
    exact Nat.not_lt.mpr exceeds
  simp [partRange, checkedSub, checkedMul, checkedAdd, positive, starts, sum, Bind.bind,
    Except.bind]

/-- The range of a part that starts in range is known just if its end is in range too. -/
theorem partRange_eq_ok_iff (positive : 1 ≤ number)
    (starts : (number - 1) * partSize < wordLimit) {range : ByteRange} :
    partRange number partSize fileSize = .ok range ↔
      number * partSize < wordLimit ∧
        range = ⟨(number - 1) * partSize, min (number * partSize) fileSize⟩ := by
  -- The end is in range or not, and both calculations are known.
  rcases Nat.lt_or_ge (number * partSize) wordLimit with fits | exceeds
  · rw [partRange_eq positive fits, Except.ok.injEq]
    simp [fits, eq_comm]
  · rw [partRange_overflows positive starts exceeds]
    simp [Nat.not_lt.mpr exceeds]

/-- A part that starts in range holds the bytes from its start up to its end. -/
theorem holds_iff (positive : 1 ≤ number) (starts : (number - 1) * partSize < wordLimit)
    {offset : Nat} (inside : offset < fileSize) :
    Holds number partSize fileSize offset ↔
      number * partSize < wordLimit ∧
        (number - 1) * partSize ≤ offset ∧ offset < number * partSize := by
  -- A byte lies between the start and the end, and before the end of the file anyway.
  simp only [Holds, partRange_eq_ok_iff positive starts, and_assoc, exists_and_left,
    exists_eq_left, Nat.lt_min, inside, and_true]

end Ranges

section Counted

variable {partSize fileSize : Nat} (fits : fileSize < wordLimit) (positive : 1 ≤ partSize)

include fits positive

/-- Every part starts in range, since it starts within the file. -/
theorem start_lt_wordLimit {number : Nat} (first : 1 ≤ number)
    (last : number ≤ ceilDiv fileSize partSize) : (number - 1) * partSize < wordLimit := by
  -- The parts before this one do not reach the end of the file.
  have inside : (number - 1) * partSize < fileSize := (lt_ceilDiv_iff positive).mp (by omega)
  exact Nat.lt_trans inside fits

/-- The part that holds a byte is the one whose number tells how many whole parts lie before it. -/
theorem existsUnique_holds_iff {offset : Nat} (inside : offset < fileSize) :
    (∃! number, (1 ≤ number ∧ number ≤ ceilDiv fileSize partSize) ∧
      Holds number partSize fileSize offset) ↔ (offset / partSize + 1) * partSize < wordLimit := by
  -- Being held means to lie between two neighbouring multiples of the part size.
  have held : ∀ number, (1 ≤ number ∧ number ≤ ceilDiv fileSize partSize) ∧
      Holds number partSize fileSize offset ↔
        number = offset / partSize + 1 ∧ (offset / partSize + 1) * partSize < wordLimit := by
    intro number
    constructor
    · -- The byte lies behind just so many whole parts, so its part has the next number.
      rintro ⟨⟨first, last⟩, holds⟩
      obtain ⟨range, start, stop⟩ :=
        (holds_iff first (start_lt_wordLimit fits positive first last) inside).mp holds
      obtain ⟨whole, rfl⟩ := Nat.exists_eq_add_of_le' first
      have same : offset / partSize = whole := Nat.div_eq_of_lt_le start stop
      exact ⟨by rw [same], by rwa [same]⟩
    · -- That part is one of those counted, since it begins within the file.
      rintro ⟨rfl, range⟩
      have start : offset / partSize * partSize ≤ offset := Nat.div_mul_le_self offset partSize
      have last : offset / partSize < ceilDiv fileSize partSize :=
        (lt_ceilDiv_iff positive).mpr (Nat.lt_of_le_of_lt start inside)
      have first : 1 ≤ offset / partSize + 1 := Nat.le_add_left 1 _
      refine ⟨⟨first, last⟩, ?_⟩
      refine (holds_iff first (start_lt_wordLimit fits positive first last) inside).mpr ?_
      exact ⟨range, start, (Nat.div_lt_iff_lt_mul positive).mp (Nat.lt_succ_self _)⟩
  simp only [held]
  exact ⟨fun ⟨_, ⟨_, range⟩, _⟩ => range, fun range => ⟨_, ⟨rfl, range⟩, fun _ same => same.1⟩⟩

/-- The part of a byte ends in range unless it is the last and all parts together do not. -/
theorem ends_in_range_iff {offset : Nat} (inside : offset < fileSize) :
    (offset / partSize + 1) * partSize < wordLimit ↔
      ¬ (wordLimit ≤ ceilDiv fileSize partSize * partSize ∧
        (ceilDiv fileSize partSize - 1) * partSize ≤ offset) := by
  -- The byte lies in its part, and its part is one of those counted.
  have start : offset / partSize * partSize ≤ offset := Nat.div_mul_le_self offset partSize
  have stop : offset < (offset / partSize + 1) * partSize :=
    (Nat.div_lt_iff_lt_mul positive).mp (Nat.lt_succ_self _)
  have among : offset / partSize < ceilDiv fileSize partSize :=
    (lt_ceilDiv_iff positive).mpr (Nat.lt_of_le_of_lt start inside)
  rcases Nat.lt_or_ge (offset / partSize + 1) (ceilDiv fileSize partSize) with earlier | final
  · -- The part is not the last, so it ends within the file, and the last one starts behind it.
    have within := (lt_ceilDiv_iff positive).mp earlier
    have later : (offset / partSize + 1) * partSize ≤ (ceilDiv fileSize partSize - 1) * partSize :=
      Nat.mul_le_mul_right partSize (by omega)
    omega
  · -- The part is the last, so its end is the end of all parts together.
    have last : ceilDiv fileSize partSize = offset / partSize + 1 := by omega
    rw [last, Nat.add_sub_cancel]
    omega

/-- A part has no range just if it is the last and all parts together do not end in range. -/
theorem partRange_eq_error_iff {number : Nat} (first : 1 ≤ number)
    (last : number ≤ ceilDiv fileSize partSize) {fault : ArithmeticFault} :
    partRange number partSize fileSize = .error fault ↔
      fault = .addOverflow ∧ number = ceilDiv fileSize partSize ∧
        wordLimit ≤ ceilDiv fileSize partSize * partSize := by
  -- The end of the part is in range or not.
  rcases Nat.lt_or_ge (number * partSize) wordLimit with small | exceeds
  · rw [partRange_eq first small]
    refine iff_of_false nofun ?_
    rintro ⟨-, rfl, large⟩
    exact Nat.not_lt.mpr large small
  · -- All parts but the last end within the file.
    have final : number = ceilDiv fileSize partSize := by
      refine Nat.le_antisymm last (Nat.le_of_not_lt fun earlier => ?_)
      exact Nat.not_lt.mpr exceeds (Nat.lt_trans ((lt_ceilDiv_iff positive).mp earlier) fits)
    rw [partRange_overflows first (start_lt_wordLimit fits positive first last) exceeds,
      Except.error.injEq]
    subst final
    simp [exceeds, eq_comm]

end Counted

/-- The parts of a file tile it, whatever their size. -/
theorem parts_tile_file {fileSize partSize : Nat} (fits : fileSize < wordLimit)
    (positive : 1 ≤ partSize) :
    ∃ count, partCount fileSize partSize = .ok count ∧ Tiles fileSize partSize count := by
  -- The count rounds up, so each part begins within the file and all together reach its end.
  refine ⟨_, checkedCeilDiv_eq positive, ?_⟩
  have below : ∀ number, number < ceilDiv fileSize partSize ↔ number * partSize < fileSize :=
    fun _ => lt_ceilDiv_iff positive
  have reached : fileSize ≤ ceilDiv fileSize partSize * partSize :=
    (ceilDiv_le_iff positive).mp (Nat.le_refl _)
  have starts : ∀ number, 1 ≤ number → number ≤ ceilDiv fileSize partSize →
      (number - 1) * partSize < fileSize := fun number first last => (below _).mp (by omega)
  -- A part that can be calculated is known by its number.
  have ranges : ∀ number range, 1 ≤ number → number ≤ ceilDiv fileSize partSize →
      partRange number partSize fileSize = .ok range →
      range = ⟨(number - 1) * partSize, min (number * partSize) fileSize⟩ :=
    fun number range first last known =>
      ((partRange_eq_ok_iff first (start_lt_wordLimit fits positive first last)).mp known).2
  constructor
  case nothing =>
    have some := below 0
    omega
  case faults =>
    intro number first last fault
    exact partRange_eq_error_iff fits positive first last
  -- The part begins within the file, and its end is cut off at that of the file.
  case inside =>
    intro number range first last known
    obtain rfl := ranges number range first last known
    have start := starts number first last
    have sum := stop_eq partSize first
    dsimp only
    omega
  case first =>
    intro range some known
    obtain rfl := ranges 1 range (Nat.le_refl 1) some known
    exact Nat.zero_mul partSize
  case last =>
    intro range some known
    obtain rfl := ranges _ range some (Nat.le_refl _) known
    have sum := stop_eq partSize some
    dsimp only
    omega
  case adjacent =>
    intro number range next first last known following
    obtain rfl := ranges number range first (Nat.le_of_lt last) known
    -- The next part starts where this one ends, since the file goes on.
    obtain rfl := ranges (number + 1) next (by omega) last following
    exact Nat.min_eq_left (Nat.le_of_lt ((below number).mp last))
  -- All parts but the last end within the file, so nothing is cut off.
  case full =>
    intro number range first last known
    obtain rfl := ranges number range first (Nat.le_of_lt last) known
    have within := (below number).mp last
    have sum := stop_eq partSize first
    dsimp only
    omega
  -- The part of a byte can be calculated just if it ends in range.
  case once =>
    intro offset inside
    rw [existsUnique_holds_iff fits positive inside]
    exact ends_in_range_iff fits positive inside

/-- A part that ends at the first number out of range overflows, and the part before it does not. -/
theorem parts_tile_file_overflowing : (2 ^ 64 - 1 < wordLimit ∧ 1 ≤ 2 ^ 63) ∧
    partRange 1 (2 ^ 63) (2 ^ 64 - 1) = .ok ⟨0, 2 ^ 63⟩ ∧
    partRange 2 (2 ^ 63) (2 ^ 64 - 1) = .error .addOverflow ∧
    ∃ count, partCount (2 ^ 64 - 1) (2 ^ 63) = .ok count ∧
      Tiles (2 ^ 64 - 1) (2 ^ 63) count :=
  ⟨by decide, by decide, by decide, parts_tile_file (by decide) (by decide)⟩

end ObjectStorage.Upload
