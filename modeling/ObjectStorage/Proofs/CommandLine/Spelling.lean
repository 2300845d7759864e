import ObjectStorage.CommandLine.Parser
import ObjectStorage.CommandLine.Written
import ObjectStorage.Proofs.Text.ByteOrder
import ObjectStorage.Proofs.Text.Glyphs

/-! How single words are read: a flag in either of its forms is that flag and nothing else, and a
word that no dash begins is never an option. -/

namespace ObjectStorage

/-- Whether a word stands for itself: it is a dash alone, or it begins with no dash. -/
def Word.Plain (word : Word) : Prop :=
  word = .text "-" ∨ word.bytes.data.toList.head? ≠ some 0x2d

/-- Whether a word stands for itself can be read off its bytes. -/
instance (word : Word) : Decidable word.Plain := inferInstanceAs (Decidable (_ ∨ _))

namespace CommandLine

section Plain

/-- Only a word whose first byte is that of a dash has a dash as its first glyph. -/
theorem head?_bytes_of_head?_glyphs {word : Word} (dash : word.glyphs.head? = some (some '-')) :
    word.bytes.data.toList.head? = some 0x2d := by
  -- A dash is a single byte in UTF-8, so the first glyph and the first byte agree on it.
  cases word with
  | text value =>
    change (Text.utf8 value).head? = _
    cases split : value.toList with
    | nil => simp [Word.glyphs, split] at dash
    | cons c rest =>
      obtain rfl : c = '-' := by simpa [Word.glyphs, split] using dash
      rw [Text.utf8_eq, split]
      rfl
  | raw data broken => exact Text.head?_of_head?_glyphs dash

/-- A word that stands for itself is no option. -/
theorem ofGlyphs_of_plain {word : Word} (plain : word.Plain) :
    Reading.ofGlyphs word.glyphs = .plain := by
  rcases plain with rfl | other
  · rfl
  · -- Without a dash in front there is nothing to read.
    have first : word.glyphs.head? ≠ some (some '-') := fun dash =>
      other (head?_bytes_of_head?_glyphs dash)
    -- Every reading but the last begins with a dash.
    unfold Reading.ofGlyphs
    split
    case h_1 glyphs => simp [glyphs] at first
    case h_2 glyphs => simp [glyphs] at first
    case h_3 glyphs => simp [glyphs] at first
    case h_4 => rfl

end Plain

section Spelling

variable (spelling : Spelling)

/-- A flag reads as the option that it is, in either form. -/
theorem reading_spelling :
    (∃ name, Reading.ofGlyphs spelling.word.glyphs = .long name none ∧
      Switch.ofName? name = some (.flag spelling.flag)) ∨
    (∃ letter, Reading.ofGlyphs spelling.word.glyphs = .letters [letter] ∧
      Switch.ofLetter? letter = some (.flag spelling.flag)) := by
  obtain ⟨flag, brief⟩ := spelling
  -- Only one flag has a letter.
  cases flag <;> cases brief
  case quiet.true => exact .inr ⟨_, rfl, rfl⟩
  all_goals exact .inl ⟨_, rfl, rfl⟩

/-- A long option without a value takes effect when what stood before it is in order. -/
theorem applyLong_of_ofName? {position : Position} {settle : Except Rejection Unit} {flags : Flags}
    {name : List Text.Glyph} {switch : Switch} (known : Switch.ofName? name = some switch) :
    applyLong position settle flags name none =
      settle >>= fun _ => apply position flags switch := by
  -- The name is known and there is no value, so only the order of the two steps is left.
  simp only [applyLong, known]

/-- So does a single letter. -/
theorem applyLetters_of_ofLetter? {position : Position} {settle : Except Rejection Unit}
    {flags : Flags} {letter : Text.Glyph} {switch : Switch}
    (known : Switch.ofLetter? letter = some switch) :
    applyLetters position settle flags [letter] =
      settle >>= fun _ => apply position flags switch := by
  simp only [applyLetters, known]
  -- Behind the one letter there is no other.
  refine bind_congr fun _ => ?_
  exact bind_pure _

/-- A flag in front of the verb is noted, and the rest is read. -/
theorem parseFrom_spelling (flags : Flags) (rest : List Word) :
    parseFrom flags (spelling.word :: rest) =
      apply none flags (.flag spelling.flag) >>= fun flags => parseFrom flags rest := by
  -- No flag is spelled like a verb, so it is read as an option.
  have other : Verb.ofWord? spelling.word = none := by
    obtain ⟨flag, brief⟩ := spelling
    cases flag <;> cases brief <;> rfl
  rcases reading_spelling spelling with ⟨name, reading, known⟩ | ⟨letter, reading, known⟩
  · simp only [parseFrom, other, reading, applyLong_of_ofName? known]
    rfl
  · simp only [parseFrom, other, reading, applyLetters_of_ofLetter? known]
    rfl

/-- A flag behind the verb settles the value before it, and is noted then. -/
theorem Progress.read_spelling (verb : Verb) {progress : Progress}
    (unescaped : progress.escaped = false) :
    progress.read verb spelling.word = do
      let settled ← progress.settle verb
      let flags ← apply (some verb) progress.flags (.flag spelling.flag)
      return { settled with flags } := by
  -- The value is settled twice, with the same result.
  have twice : ∀ flags : Except Rejection Flags,
      (((progress.settle verb).map fun _ => ()) >>= fun _ => flags) >>= (fun flags => do
        let settled ← progress.settle verb
        return { settled with flags }) = do
      let settled ← progress.settle verb
      let flags ← flags
      return { settled with flags } := by
    intro flags
    cases progress.settle verb <;> rfl
  -- In both forms the option is known, and both settle before they set.
  rcases reading_spelling spelling with ⟨name, reading, known⟩ | ⟨letter, reading, known⟩
  · simp only [read, unescaped, reading, applyLong_of_ofName? known, Bool.false_eq_true, if_false]
    exact twice _
  · simp only [read, unescaped, reading, applyLetters_of_ofLetter? known, Bool.false_eq_true,
      if_false]
    exact twice _

end Spelling

/-- A word that stands for itself is a value. -/
theorem Progress.read_plain (verb : Verb) {progress : Progress}
    (unescaped : progress.escaped = false) {word : Word} (plain : word.Plain) :
    progress.read verb word = progress.takeValue verb word := by
  -- A word that is no option is taken for a value.
  simp only [read, unescaped, ofGlyphs_of_plain plain, Bool.false_eq_true, if_false]

end CommandLine

end ObjectStorage
