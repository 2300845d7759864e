import Mathlib.Algebra.Group.Nat.Defs
import Mathlib.Tactic.SplitIfs
import ObjectStorage.Text.Glyph

/-! A character that is read from one byte only: a longer character is never in the range of the
short ones, so a dash can only come from the byte of a dash. -/

namespace ObjectStorage.Text

/-- Followers only raise what was read before them. -/
theorem le_of_followers {count : Nat} {low high : UInt8} {value code : Nat}
    {bytes rest : List UInt8} (read : followers count low high value bytes = (some code, rest)) :
    value * 64 ^ count ≤ code := by
  -- The induction is on the followers that are left, for any value read so far.
  induction count generalizing low high value bytes with
  | zero =>
    cases read
    simp
  | succ count ih =>
    cases bytes with
    | nil => exact nomatch read
    | cons b bytes =>
      rw [followers] at read
      split at read
      · -- The follower gives six bits, and what was read before stands above them.
        have further := ih read
        calc value * 64 ^ (count + 1) = value * 64 * 64 ^ count := by
              rw [Nat.pow_succ, Nat.mul_assoc, Nat.mul_comm 64]
          _ ≤ (value * 64 + (b.toNat - 0x80)) * 64 ^ count :=
            Nat.mul_le_mul_right _ (Nat.le_add_right _ _)
          _ ≤ code := further
      · exact nomatch read

/-- The first of the followers is not below the lowest that the lead allows. -/
theorem le_of_first_follower {count : Nat} {low high : UInt8} {value code : Nat}
    {bytes rest : List UInt8}
    (read : followers (count + 1) low high value bytes = (some code, rest)) :
    (value * 64 + (low.toNat - 0x80)) * 64 ^ count ≤ code := by
  -- The first follower adds at least what the lowest allowed one would add.
  cases bytes with
  | nil => exact nomatch read
  | cons b bytes =>
    rw [followers] at read
    split at read
    case isTrue fits =>
      have above : low.toNat ≤ b.toNat := by
        simp only [Bool.and_eq_true, decide_eq_true_eq] at fits
        exact fits.1
      exact Nat.le_trans (Nat.mul_le_mul_right _ (by omega)) (le_of_followers read)
    case isFalse => exact nomatch read

/-- No lead can be completed to a character that has a byte of its own. -/
theorem long_of_lead {b : UInt8} {lead : Lead} (leads : Lead.ofByte? b = some lead)
    {code : Nat} {bytes rest : List UInt8}
    (read : followers lead.followers lead.low lead.high lead.bits bytes = (some code, rest)) :
    0x80 ≤ code := by
  unfold Lead.ofByte? at leads
  -- Short characters would be overlong forms, and these are what the narrowed ranges leave out.
  split_ifs at leads with _ two _ _ three _ four
  all_goals
    cases leads
    have least := le_of_first_follower read
    simp only [UInt8.lt_iff_toNat_lt, UInt8.toNat_ofNat, ← UInt8.toNat_inj] at *
    omega

/-- Only the code point of a dash makes a dash. -/
theorem eq_of_ofNat_eq_dash {code : Nat} (dash : Char.ofNat code = '-') : code = 0x2d := by
  by_cases valid : code.isValidChar
  · have same := congrArg Char.toNat dash
    rw [Char.ofNat, dif_pos valid] at same
    exact same
  · -- What is no code point makes a character of its own.
    rw [Char.ofNat, dif_neg valid] at dash
    exact absurd dash (by decide)

/-- Only the byte of a dash is read as a dash. -/
theorem head?_of_head?_glyphs {bytes : List UInt8}
    (dash : (glyphs bytes).head? = some (some '-')) : bytes.head? = some 0x2d := by
  -- Either the first byte is a character of its own, or it leads a longer one.
  cases bytes with
  | nil => simp [glyphs] at dash
  | cons b bytes =>
    by_cases short : b < 0x80
    · rw [glyphs, if_pos short] at dash
      have code := eq_of_ofNat_eq_dash (Option.some.inj (Option.some.inj dash))
      exact congrArg some (UInt8.toNat_inj.mp code)
    · rw [glyphs, if_neg short] at dash
      cases leads : Lead.ofByte? b with
      | none => simp [leads] at dash
      | some lead =>
        simp only [leads, List.head?_cons, Option.some.injEq, Option.map_eq_some_iff] at dash
        obtain ⟨code, read, dash⟩ := dash
        -- A character of several bytes is no dash.
        have long := long_of_lead leads (Prod.ext read rfl)
        exact absurd (eq_of_ofNat_eq_dash dash) (by omega)

end ObjectStorage.Text
