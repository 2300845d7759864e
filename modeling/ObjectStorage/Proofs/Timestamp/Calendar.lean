import Mathlib.Tactic.SplitIfs
import ObjectStorage.Timestamp

/-! The days of the calendar: from the date of a day it is found again how many days after
1970-01-01 it lies. -/

namespace ObjectStorage.Timestamp

/-- The leap days that are taken off a day of an era are those of the years before it, or one more.
-/
theorem leapDays_bounds {dayOfEra yearOfEra : Nat} (inside : dayOfEra < 146097)
    (year : yearOfEra = (dayOfEra - dayOfEra / 1460 + dayOfEra / 36524 - dayOfEra / 146096) / 365) :
    yearOfEra / 4 + dayOfEra / 36524 ≤ dayOfEra / 1460 + dayOfEra / 146096 + yearOfEra / 100 ∧
      dayOfEra / 1460 + dayOfEra / 146096 + yearOfEra / 100 ≤
        yearOfEra / 4 + dayOfEra / 36524 + 1 := by
  -- Within a century the years are counted evenly, and the last day of an era is a leap day.
  have century : dayOfEra = 146096 ∨ dayOfEra / 146096 = 0 ∧
      (dayOfEra / 36524 = 0 ∨ dayOfEra / 36524 = 1 ∨ dayOfEra / 36524 = 2 ∨
        dayOfEra / 36524 = 3) := by omega
  -- In each century the number of the century is known, and the rest is arithmetic.
  rcases century with rfl | ⟨early, first | second | third | fourth⟩
  · omega
  · have same : yearOfEra / 100 = 0 := by omega
    omega
  · have same : yearOfEra / 100 = 1 := by omega
    omega
  · have same : yearOfEra / 100 = 2 := by omega
    omega
  · have same : yearOfEra / 100 = 3 := by omega
    omega

/-- A day of an era lies in its year: there are no more than 365 days of the year before it. -/
theorem yearOfEra_spec {dayOfEra yearOfEra : Nat} (inside : dayOfEra < 146097)
    (year : yearOfEra = (dayOfEra - dayOfEra / 1460 + dayOfEra / 36524 - dayOfEra / 146096) / 365) :
    yearOfEra < 400 ∧ ∃ dayOfYear ≤ 365,
      dayOfEra = 365 * yearOfEra + yearOfEra / 4 - yearOfEra / 100 + dayOfYear := by
  -- The bounds for the leap days keep the rest of the era within one year.
  obtain ⟨least, most⟩ := leapDays_bounds inside year
  refine ⟨by omega, dayOfEra - (365 * yearOfEra + yearOfEra / 4 - yearOfEra / 100), ?_, ?_⟩
  · omega
  · omega

/-- The count of a day that lies in a given era, year and month, all of which start in March. -/
theorem Day.count_of_march {era : Int} {yearOfEra marchMonth month : Nat} (few : yearOfEra < 400)
    (within : marchMonth < 12)
    (named : month = if marchMonth < 10 then marchMonth + 3 else marchMonth - 9) (before : Nat) :
    count ⟨era * 400 + yearOfEra + (if month ≤ 2 then 1 else 0), month, before + 1⟩ =
      era * 146097 + (yearOfEra * 365 + yearOfEra / 4 - yearOfEra / 100 : Int) +
        ((153 * marchMonth + 2) / 5 + before : Nat) - 719468 := by
  -- The last two months that started in a year are the first two of the year behind it.
  have shifted : (if month ≤ 2 then month + 9 else month - 3) = marchMonth := by
    split_ifs at named ⊢ <;> omega
  have started : (if month ≤ 2 then era * 400 + yearOfEra + (if month ≤ 2 then 1 else 0) - 1
      else era * 400 + yearOfEra + (if month ≤ 2 then 1 else 0) : Int) = era * 400 + yearOfEra := by
    split <;> omega
  have eras : (era * 400 + yearOfEra) / 400 = era := by omega
  have years : (era * 400 + yearOfEra) % 400 = yearOfEra := by omega
  simp only [count, started, shifted, eras, years, Nat.add_sub_cancel]

/-- From the date of a day it is found how many days after 1970-01-01 it lies. -/
theorem Day.count_ofCount (count : Int) : (ofCount count).count = count := by
  -- The day is placed in its era, its year and its month, and counted from there.
  obtain ⟨dayOfEra, same⟩ := Int.eq_ofNat_of_zero_le
    (Int.emod_nonneg (count + 719468) (show (146097 : Int) ≠ 0 by decide))
  have inside : dayOfEra < 146097 := by omega
  have place : count = (count + 719468) / 146097 * 146097 + dayOfEra - 719468 := by omega
  simp only [ofCount, same, Int.toNat_natCast]
  -- From here on only the era, the year and the day of the year matter.
  generalize (count + 719468) / 146097 = era at place
  generalize year : (dayOfEra - dayOfEra / 1460 + dayOfEra / 36524 - dayOfEra / 146096) / 365 =
    yearOfEra
  obtain ⟨few, dayOfYear, within, split⟩ := yearOfEra_spec inside year.symm
  have rest : dayOfEra - (365 * yearOfEra + yearOfEra / 4 - yearOfEra / 100) = dayOfYear := by omega
  rw [rest, count_of_march few (show (5 * dayOfYear + 2) / 153 < 12 by omega) rfl, place, split]
  omega

/-- The leap day of a year that ends a century. -/
example : Day.ofCount 11016 = ⟨2000, 2, 29⟩ ∧ Day.count ⟨2000, 2, 29⟩ = 11016 := by decide

end ObjectStorage.Timestamp
