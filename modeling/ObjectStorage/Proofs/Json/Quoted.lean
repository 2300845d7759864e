import Mathlib.Tactic.SplitIfs
import ObjectStorage.Json.Reader

/-! Strings and whole numbers read back as what they were written from, and nothing that is written
for them is a control character. -/

namespace ObjectStorage.Json

/-- Whether no character of a text is a control character. -/
def Printable (text : List Char) : Prop := ∀ c ∈ text, 0x20 ≤ c.toNat

instance (text : List Char) : Decidable (Printable text) :=
  decidable_of_iff (text.all fun c => 0x20 ≤ c.toNat) (by simp [Printable])

/-- A text is printable if its first character is and the rest is. -/
@[simp] theorem printable_cons {c : Char} {text : List Char} :
    Printable (c :: text) ↔ 0x20 ≤ c.toNat ∧ Printable text :=
  -- The first character and the others make up the text.
  List.forall_mem_cons

/-- Two texts in a row are printable if both are. -/
@[simp] theorem printable_append {front back : List Char} :
    Printable (front ++ back) ↔ Printable front ∧ Printable back :=
  -- A character of the whole belongs to one of the two.
  List.forall_mem_append

/-- A text without characters is printable. -/
@[simp] theorem printable_nil : Printable [] :=
  -- There is no character to look at.
  List.forall_mem_nil _

section String

/-- A control character is written as the digits that it is read from. -/
theorem fromHex?_control {code : Nat} (control : code < 0x20) :
    fromHex? '0' '0' (hexDigit (code / 16)) (hexDigit (code % 16)) = some (Char.ofNat code) := by
  -- There are few control characters, so all of them can be tried.
  have all : ∀ code < 0x20, fromHex? '0' '0' (hexDigit (code / 16)) (hexDigit (code % 16)) =
      some (Char.ofNat code) := by decide
  exact all code control

/-- A letter behind a backslash is read as what it means. -/
theorem unquote?_letter {letter meant : Char} (means : meaning? letter = some meant)
    (rest : List Char) :
    unquote? ('\\' :: letter :: rest) =
      (unquote? rest).map fun read => (meant :: read.1, read.2) := by
  -- The letter that digits follow has no other meaning.
  have other : letter ≠ 'u' := by
    rintro rfl
    exact nomatch means
  rw [unquote?]
  · simp only [means]
    cases unquote? rest <;> rfl
  · exact fun _ _ _ _ _ letters => absurd letters other

/-- The digits of a control character are read as the character. -/
theorem unquote?_digits {code : Nat} (control : code < 0x20) (rest : List Char) :
    unquote? ('\\' :: 'u' :: '0' :: '0' :: hexDigit (code / 16) :: hexDigit (code % 16) :: rest) =
      (unquote? rest).map fun read => (Char.ofNat code :: read.1, read.2) := by
  -- Four digits behind the letter are one character, and the rest is read behind them.
  simp only [unquote?, fromHex?_control control]
  cases unquote? rest <;> rfl

/-- A character that is no quote, no backslash and no control is read as itself. -/
theorem unquote?_plain {c : Char} (quote : c ≠ '"') (backslash : c ≠ '\\')
    (printable : ¬ c.toNat < 0x20) (rest : List Char) :
    unquote? (c :: rest) = (unquote? rest).map fun read => (c :: read.1, read.2) := by
  -- All other ways to read a character begin with a quote or a backslash.
  rw [unquote?]
  · simp only [printable, backslash, or_self, if_false]
    cases unquote? rest <;> rfl
  · exact quote
  · simp [backslash]
  · simp [backslash]

/-- What is written for a character is read as the character. -/
theorem unquote?_escaped (c : Char) (rest : List Char) :
    unquote? (escaped c ++ rest) = (unquote? rest).map fun read => (c :: read.1, read.2) := by
  -- The cases are those in which a character is written.
  unfold escaped
  split_ifs with quote backslash backspace feed newline back tab control
  -- The characters that are escaped by a letter come first.
  · subst quote
    exact unquote?_letter rfl rest
  · subst backslash
    exact unquote?_letter rfl rest
  · subst backspace
    exact unquote?_letter rfl rest
  · subst feed
    exact unquote?_letter rfl rest
  · subst newline
    exact unquote?_letter rfl rest
  · subst back
    exact unquote?_letter rfl rest
  · subst tab
    exact unquote?_letter rfl rest
  · -- Other controls are written as digits.
    have read := unquote?_digits control rest
    rwa [Char.ofNat_toNat] at read
  · -- All that is left is written as it is.
    exact unquote?_plain quote backslash control rest

/-- What is written for a text is read as the text, up to the quote behind it. -/
theorem unquote?_encode (text rest : List Char) :
    unquote? (encode text ++ '"' :: rest) = some (text, rest) := by
  -- Each character is read back in front of the others.
  induction text with
  | nil => rfl
  | cons c text ih =>
    have split : encode (c :: text) = escaped c ++ encode text := List.flatMap_cons
    rw [split, List.append_assoc, unquote?_escaped, ih]
    rfl

/-- What is written for a character is printable. -/
theorem printable_escaped (c : Char) : Printable (escaped c) := by
  -- The cases are those in which a character is written.
  unfold escaped
  split_ifs with quote backslash backspace feed newline back tab control
  -- A backslash and a letter are no controls.
  any_goals decide
  · -- The digits of the few controls can be tried one by one.
    have all : ∀ code < 0x20, 0x20 ≤ (hexDigit (code / 16)).toNat ∧
        0x20 ≤ (hexDigit (code % 16)).toNat := by decide
    simp [all c.toNat control]
  · simpa using control

/-- What is written for a string is printable. -/
theorem printable_quoted (text : String) : Printable (quoted text) := by
  -- Inside the quotes there is only what is written for characters.
  have inside : Printable (encode text.toList) := by
    intro d member
    obtain ⟨c, -, written⟩ := List.mem_flatMap.mp member
    exact printable_escaped c d written
  simp [quoted, inside]

end String

section Number

/-- Whether a number ends in front of a text: the text does not go on with what could belong to
it. -/
def Stops (rest : List Char) : Prop :=
  ∀ c ∈ rest.head?, c.isDigit = false ∧ c ≠ '.' ∧ c ≠ 'e' ∧ c ≠ 'E'

/-- Digits of a number are worth the number. -/
theorem digitsValue_toDigits (n : Nat) : Text.digitsValue (Nat.toDigits 10 n) = n := by
  -- The digits are summed up as the library does, but for the order of the factors.
  have fold : Text.digitsValue (Nat.toDigits 10 n) = Nat.ofDigitChars 10 (Nat.toDigits 10 n) 0 := by
    simp only [Text.digitsValue, Nat.ofDigitChars_eq_foldl, Nat.mul_comm 10]
  rw [fold, Nat.ofDigitChars_ten_toDigits]

/-- A number that is not zero begins with a digit that is none. -/
theorem head?_toDigits_ne {n : Nat} (positive : 0 < n) :
    (Nat.toDigits 10 n).head? ≠ some '0' := by
  -- The induction goes from a number to its tenth, which has the same first digit.
  induction n using Nat.strongRecOn with
  | ind n ih =>
    rcases Nat.lt_or_ge n 10 with small | large
    · -- There are nine such digits.
      have all : ∀ n < 10, 0 < n → [Nat.digitChar n].head? ≠ some '0' := by decide
      rw [Nat.toDigits_of_lt_base small]
      exact all n small positive
    · -- The first digit is that of a tenth of the number.
      obtain ⟨c, digits, split⟩ :=
        List.exists_cons_of_ne_nil (@Nat.toDigits_ne_nil (n / 10) 10)
      have first := ih (n / 10) (by omega) (by omega)
      rw [split] at first
      rwa [Nat.toDigits_of_base_le (by decide) large, split]

/-- Digits are told apart from a text behind them that does not begin with a digit. -/
theorem span_digits {digits rest : List Char} (all : ∀ c ∈ digits, c.isDigit = true)
    (stops : ∀ c ∈ rest.head?, c.isDigit = false) :
    (digits ++ rest).takeWhile Char.isDigit = digits ∧
      (digits ++ rest).dropWhile Char.isDigit = rest := by
  -- The stretch of digits goes through the first part and ends where the second begins.
  rw [List.takeWhile_append_of_pos all, List.dropWhile_append_of_pos all]
  cases rest with
  | nil => exact ⟨List.append_nil _, rfl⟩
  | cons c rest =>
    have other : ¬ c.isDigit = true := by simp [stops c rfl]
    rw [List.takeWhile_cons_of_neg other, List.dropWhile_cons_of_neg other, List.append_nil]
    exact ⟨rfl, rfl⟩

/-- The digits of a number are read as the number, where the number ends behind them. -/
theorem readDigits?_toDigits (n : Nat) {rest : List Char} (stops : Stops rest) :
    readDigits? (Nat.toDigits 10 n ++ rest) = some (n, rest) := by
  have digits : ∀ c ∈ Nat.toDigits 10 n, c.isDigit = true := fun c member =>
    Nat.isDigit_of_mem_toDigits (by decide) (by decide) member
  -- All digits are taken, and nothing behind them.
  have taken := span_digits digits fun c first => (stops c first).1
  have nonempty : (Nat.toDigits 10 n).isEmpty = false := by simp
  -- Only zero begins with a zero, and it has no other digit.
  have leading : ¬ ((Nat.toDigits 10 n).head? = some '0' ∧ 1 < (Nat.toDigits 10 n).length) := by
    rintro ⟨zero, long⟩
    rcases Nat.eq_zero_or_pos n with rfl | positive
    · exact absurd long (by decide)
    · exact head?_toDigits_ne positive zero
  have whole : (rest.head?.any fun c => c == '.' || c == 'e' || c == 'E') = false := by
    cases rest with
    | nil => rfl
    | cons c rest =>
      obtain ⟨-, point, small, large⟩ := stops c rfl
      simp [point, small, large]
  simp only [readDigits?, taken, nonempty, leading, whole, digitsValue_toDigits]
  simp

/-- A whole number begins with a digit or with its sign. -/
theorem exists_decimal_eq_cons (value : Int) :
    ∃ c digits, decimal value = c :: digits ∧ (c.isDigit = true ∨ c = '-') := by
  -- There is a digit for every number, and a sign in front of a negative one.
  cases value with
  | ofNat n =>
    obtain ⟨c, digits, split⟩ := List.exists_cons_of_ne_nil (@Nat.toDigits_ne_nil n 10)
    refine ⟨c, digits, split, .inl ?_⟩
    exact Nat.isDigit_of_mem_toDigits (by decide) (by decide) (split ▸ List.mem_cons_self)
  | negSucc n => exact ⟨'-', _, rfl, .inr rfl⟩

/-- What is written for a whole number is read as the number, where it ends there. -/
theorem readNumber?_decimal (value : Int) {rest : List Char} (stops : Stops rest) :
    readNumber? (decimal value ++ rest) = some (value, rest) := by
  -- The sign is written in front of the digits and read before them.
  cases value with
  | negSucc n =>
    simp only [decimal, List.cons_append, readNumber?, readDigits?_toDigits _ stops]
    rfl
  | ofNat n =>
    -- The first digit is no sign.
    obtain ⟨c, digits, split⟩ := List.exists_cons_of_ne_nil (@Nat.toDigits_ne_nil n 10)
    have digit : c.isDigit = true :=
      Nat.isDigit_of_mem_toDigits (by decide) (by decide) (split ▸ List.mem_cons_self)
    have read := readDigits?_toDigits n stops
    simp only [decimal, split, List.cons_append] at read ⊢
    rw [readNumber?, read]
    · rfl
    · intro text same
      obtain rfl := (List.cons.inj same).1
      exact absurd digit (by decide)

/-- What is written for a whole number is printable. -/
theorem printable_decimal (value : Int) : Printable (decimal value) := by
  -- Digits and the sign stand above the controls.
  have digits : ∀ n, Printable (Nat.toDigits 10 n) := by
    intro n d member
    have digit : d.isDigit = true := Nat.isDigit_of_mem_toDigits (by decide) (by decide) member
    simp only [Char.isDigit, Bool.and_eq_true, decide_eq_true_eq] at digit
    have least : 0x30 ≤ d.toNat := digit.1
    omega
  cases value with
  | ofNat n => exact digits n
  | negSucc n => simp [decimal, digits]

end Number

end ObjectStorage.Json
