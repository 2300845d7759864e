/-! Reading bytes as UTF-8 text in which ill-formed stretches stand out. -/

namespace ObjectStorage.Text

/-- A character, or `none` for a stretch of bytes that is no character. -/
abbrev Glyph := Option Char

/-- What the first byte of a longer character asks for: how many bytes follow, the range the next
one must lie in, and the bits that it contributes itself. -/
structure Lead where
  followers : Nat
  low : UInt8
  high : UInt8
  bits : Nat

/-- The demands of a byte that starts a character of two to four bytes. The narrowed ranges leave
out overlong forms, surrogates and code points above U+10FFFF. -/
def Lead.ofByte? (b : UInt8) : Option Lead :=
  if b < 0xc2 then none
  else if b < 0xe0 then some ⟨1, 0x80, 0xbf, b.toNat - 0xc0⟩
  else if b = 0xe0 then some ⟨2, 0xa0, 0xbf, 0⟩
  else if b = 0xed then some ⟨2, 0x80, 0x9f, 0xd⟩
  else if b < 0xf0 then some ⟨2, 0x80, 0xbf, b.toNat - 0xe0⟩
  else if b = 0xf0 then some ⟨3, 0x90, 0xbf, 0⟩
  else if b < 0xf4 then some ⟨3, 0x80, 0xbf, b.toNat - 0xf0⟩
  else if b = 0xf4 then some ⟨3, 0x80, 0x8f, 4⟩
  else none

/-- Reads the bytes that must follow a lead, as far as they are well formed; the code point is
missing when they break off. -/
def followers : Nat → UInt8 → UInt8 → Nat → List UInt8 → Option Nat × List UInt8
  | 0, _, _, value, rest => (some value, rest)
  | _ + 1, _, _, _, [] => (none, [])
  | count + 1, low, high, value, b :: rest =>
    -- Only the first follower may be narrowed; a byte that does not fit is left to be read anew.
    if low ≤ b && b ≤ high then followers count 0x80 0xbf (value * 64 + (b.toNat - 0x80)) rest
    else (none, b :: rest)

/-- Reading followers never lengthens the rest. -/
theorem followers_length (count : Nat) (low high : UInt8) (value : Nat) (bytes : List UInt8) :
    (followers count low high value bytes).2.length ≤ bytes.length := by
  -- Either a byte is used up, or reading stops where it is.
  fun_induction followers count low high value bytes with
  | case1 => exact Nat.le_refl _
  | case2 => exact Nat.le_refl _
  | case3 _ _ _ _ _ _ _ shorter => exact Nat.le_succ_of_le shorter
  | case4 => exact Nat.le_refl _

/-- The glyphs of a string of bytes: one broken glyph stands for every longest stretch that could
start a character but does not, or for a single byte that cannot. -/
def glyphs : List UInt8 → List Glyph
  | [] => []
  | b :: rest =>
    if b < 0x80 then some (Char.ofNat b.toNat) :: glyphs rest
    else
      match Lead.ofByte? b with
      | none => none :: glyphs rest
      | some lead =>
        -- What broke off stands out as one glyph, and reading goes on behind it.
        let read := followers lead.followers lead.low lead.high lead.bits rest
        read.1.map Char.ofNat :: glyphs read.2
  termination_by bytes => bytes.length
  decreasing_by
    · exact Nat.lt_succ_self _
    · exact Nat.lt_succ_self _
    · exact Nat.lt_succ_of_le (followers_length ..)

/-- The character that stands for a glyph: U+FFFD for a broken one. -/
def Glyph.shown (glyph : Glyph) : Char := glyph.getD '\uFFFD'

/-- Glyphs as text, a broken one as U+FFFD. -/
def shown (glyphs : List Glyph) : String := String.ofList (glyphs.map Glyph.shown)

end ObjectStorage.Text
