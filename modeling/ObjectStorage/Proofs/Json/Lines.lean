import Mathlib.Data.List.Forall2
import ObjectStorage.Proofs.Json.RoundTrip
import ObjectStorage.Proofs.Text.ByteOrder

/-! Texts that are JSON objects, a line each: every line reads back, and no byte in it is a control
character. -/

namespace ObjectStorage.Json

/-- Whether a line is one JSON object with these members, without control characters. -/
structure IsLine (members : List (String × Json)) (line : String) : Prop where
  reads : parse? line.toList = some (.object members)
  visible : ∀ byte ∈ Text.utf8 line, 0x20 ≤ byte.toNat

/-- Whether a text is JSON objects with these members, a line each. -/
def IsLines (objects : List (List (String × Json))) (text : String) : Prop :=
  ∃ lines, List.Forall₂ IsLine objects lines ∧ text = String.join (lines.map (· ++ "\n"))

/-- The bytes of a printable character are no control characters either. -/
theorem visible_utf8EncodeChar {c : Char} (printable : 0x20 ≤ c.toNat) :
    ∀ byte ∈ String.utf8EncodeChar c, 0x20 ≤ byte.toNat := by
  have code : 0x20 ≤ c.val.toNat := printable
  unfold String.utf8EncodeChar
  generalize c.val.toNat = value at code
  -- The one byte of a short encoding is the code point, and all others have their highest bit set.
  dsimp only
  repeat' split
  all_goals
    simp only [List.forall_mem_cons, List.not_mem_nil, false_implies, implies_true, and_true,
      UInt8.toNat_ofNat']
    omega

/-- The bytes of a printable text are no control characters. -/
theorem visible_utf8 {text : String} (printable : Printable text.toList) :
    ∀ byte ∈ Text.utf8 text, 0x20 ≤ byte.toNat := by
  -- Every byte belongs to a character, and all of these are printable.
  intro byte member
  rw [Text.utf8_eq] at member
  obtain ⟨c, among, encoded⟩ := List.mem_flatMap.mp member
  exact visible_utf8EncodeChar (printable c among) byte encoded

/-- The text of an object is a line of it. -/
theorem isLine_text (members : List (String × Json)) :
    IsLine members (Json.object members).text where
  -- The object is read back from its text, and the text is printable.
  reads := by rw [text, String.toList_ofList, parse?_render]
  visible := visible_utf8 (by rw [text, String.toList_ofList]; exact printable_render _)

/-- The texts of objects, with a line end behind each, are lines of them. -/
theorem isLines_texts (objects : List (List (String × Json))) :
    IsLines objects (String.join (objects.map fun members =>
      (Json.object members).text ++ "\n")) := by
  -- Each text is a line of its own object, in the same order.
  refine ⟨objects.map fun members => (Json.object members).text, ?_, by simp [Function.comp_def]⟩
  exact List.forall₂_map_right_iff.mpr (List.forall₂_same.mpr fun members _ => isLine_text members)

/-- Where lines follow lines, the objects follow one another too. -/
theorem IsLines.append {earlier later : List (List (String × Json))} {front back : String}
    (first : IsLines earlier front) (second : IsLines later back) :
    IsLines (earlier ++ later) (front ++ back) := by
  -- The lines of both texts follow one another as their objects do.
  obtain ⟨lines, each, rfl⟩ := first
  obtain ⟨others, every, rfl⟩ := second
  exact ⟨lines ++ others, List.rel_append each every, by rw [List.map_append, String.join_append]⟩

end ObjectStorage.Json
