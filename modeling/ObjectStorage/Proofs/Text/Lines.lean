import Mathlib.Tactic.SplitIfs

/-! Texts that are lines, each with a newline behind it, and what is found between the newlines. -/

namespace ObjectStorage.Text

/-- What stands between the newlines of a text. Behind the last newline there is a piece too, which
may be empty. -/
def pieces (text : String) : List String := (text.toList.splitOn '\n').map String.ofList

/-- Nothing between the marks that a list is split at is a mark. -/
theorem not_mem_of_mem_splitOn {mark : Char} {text piece : List Char}
    (member : piece ∈ text.splitOn mark) : mark ∉ piece := by
  -- A mark begins a new piece, and any other character belongs to the first.
  induction text generalizing piece with
  | nil =>
    rw [List.splitOn_nil, List.mem_singleton] at member
    subst member
    exact List.not_mem_nil
  | cons c text ih =>
    rw [List.splitOn_cons_eq_if_modifyHead] at member
    split_ifs at member with same
    · -- The mark ends the empty piece in front of it.
      rcases List.mem_cons.mp member with rfl | later
      · exact List.not_mem_nil
      · exact ih later
    · -- The character is put in front of the first piece.
      obtain ⟨first, others, split⟩ := List.exists_cons_of_ne_nil (List.splitOn_ne_nil mark text)
      rw [split, List.modifyHead_cons] at member
      rw [split] at ih
      rcases List.mem_cons.mp member with rfl | later
      · have other : mark ≠ c := by
          rintro rfl
          exact same BEq.rfl
        exact fun among => (List.mem_cons.mp among).elim other (ih List.mem_cons_self)
      · exact ih (List.mem_cons_of_mem _ later)

/-- No piece has a newline in it. -/
theorem not_mem_of_mem_pieces {text piece : String} (member : piece ∈ pieces text) :
    '\n' ∉ piece.toList := by
  -- Pieces are cut from the characters of the text.
  obtain ⟨characters, among, rfl⟩ := List.mem_map.mp member
  rw [String.toList_ofList]
  exact not_mem_of_mem_splitOn among

/-- A line without a newline in it is the first piece of a text that begins with it. -/
theorem pieces_line {line : String} (whole : '\n' ∉ line.toList) (rest : String) :
    pieces (line ++ "\n" ++ rest) = line :: pieces rest := by
  -- The first newline is the one behind the line, so the cut is made there.
  have split : (line ++ "\n" ++ rest).toList = line.toList ++ '\n' :: rest.toList := by simp
  rw [pieces, split, List.splitOn_append_cons_self_of_not_mem whole, List.map_cons,
    String.ofList_toList]
  rfl

/-- Lines are what is found between their ends, with nothing behind the last, just if there is no
newline within a line. -/
theorem pieces_lines_iff (lines : List String) :
    pieces (String.join (lines.map (· ++ "\n"))) = lines ++ [""] ↔
      ∀ line ∈ lines, '\n' ∉ line.toList := by
  -- If the lines are what is found, they are pieces; if they are whole, each is cut off in turn.
  constructor
  · intro found line member
    have among : line ∈ pieces (String.join (lines.map (· ++ "\n"))) := by
      rw [found]
      exact List.mem_append_left _ member
    exact not_mem_of_mem_pieces among
  · intro whole
    induction lines with
    | nil => rfl
    | cons line lines ih =>
      -- The first line is cut off at its end, and the others are found in the rest.
      obtain ⟨first, others⟩ := List.forall_mem_cons.mp whole
      rw [List.map_cons, String.join_cons, pieces_line first, ih others]
      rfl

end ObjectStorage.Text
