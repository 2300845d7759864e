/-! Strings are ordered as their bytes are, although they are compared by code points. -/

namespace ObjectStorage.Text

/-- The bytes of a string. -/
def utf8 (text : String) : List UInt8 := text.toUTF8.data.toList

/-- The bytes of a string are those of its characters, one after another. -/
theorem utf8_eq (text : String) : utf8 text = text.toList.flatMap String.utf8EncodeChar := by
  -- The library encodes a string by its characters, and both sides are brought to that form.
  have encoded : text.toByteArray = text.toList.utf8Encode := by
    rw [← String.toByteArray_ofList, String.ofList_toList]
  rw [utf8, String.toUTF8_eq_toByteArray, encoded, List.utf8Encode, List.data_toByteArray]

/-- Of two characters, the one with the lesser code point has the lesser bytes, whatever follows. -/
theorem utf8EncodeChar_append_lt {lesser greater : Char} (less : lesser < greater)
    (rest rest' : List UInt8) :
    String.utf8EncodeChar lesser ++ rest < String.utf8EncodeChar greater ++ rest' := by
  -- Only the two code points matter, and these are bounded.
  have below : lesser.val.toNat < greater.val.toNat := less
  have top : greater.val.toNat < 0x110000 := by
    rcases greater.valid with low | ⟨-, high⟩
    · exact Nat.lt_trans low (by decide)
    · exact high
  unfold String.utf8EncodeChar
  generalize lesser.val.toNat = small at below
  generalize greater.val.toNat = large at below top
  -- Longer encodings begin with greater bytes, and equally long ones are numbers in base 64.
  dsimp only
  repeat' split
  all_goals
    simp only [List.cons_append, List.nil_append, List.cons_lt_cons_iff, UInt8.lt_iff_toNat_lt,
      UInt8.toNat_ofNat', ← UInt8.toNat_inj]
    simp (disch := omega) only [Nat.mod_eq_of_lt]
    omega

/-- A string that comes before another has the lesser bytes. -/
theorem utf8_lt {earlier later : String} (less : earlier < later) : utf8 earlier < utf8 later := by
  rw [utf8_eq, utf8_eq]
  change earlier.toList < later.toList at less
  -- The first characters that differ decide, and the bytes before them are the same.
  generalize earlier.toList = first at less
  generalize later.toList = second at less
  induction first generalizing second with
  | nil =>
    cases second with
    | nil => exact absurd less (List.lt_irrefl [])
    | cons other rest' =>
      have some : String.utf8EncodeChar other ≠ [] := by
        rw [← List.length_pos_iff, String.length_utf8EncodeChar]
        exact other.utf8Size_pos
      -- The text that goes on has a byte more.
      obtain ⟨byte, bytes, encoded⟩ := List.exists_cons_of_ne_nil some
      rw [List.flatMap_cons, encoded]
      exact List.nil_lt_cons _ _
  | cons character rest ih =>
    cases second with
    | nil => exact absurd less (List.not_lt_nil _)
    | cons other rest' =>
      rw [List.flatMap_cons, List.flatMap_cons]
      rcases List.cons_lt_cons_iff.mp less with differ | ⟨rfl, further⟩
      · exact utf8EncodeChar_append_lt differ _ _
      · exact List.append_left_lt (ih _ further)

end ObjectStorage.Text
