import ObjectStorage.Proofs.Json.Quoted

/-! Every JSON value reads back from its text, which holds no control character. -/

namespace ObjectStorage.Json

/-- What holds of all values: it holds of the simple ones, and of an array or an object if it holds
of all that stands in it. -/
@[elab_as_elim]
theorem induction {P : Json → Prop} (null : P .null) (bool : ∀ value, P (.bool value))
    (number : ∀ value, P (.number value)) (string : ∀ value, P (.string value))
    (array : ∀ items, (∀ item ∈ items, P item) → P (.array items))
    (object : ∀ members, (∀ member ∈ members, P member.2) → P (.object members))
    (value : Json) : P value :=
  @Json.rec P (fun items => ∀ item ∈ items, P item) (fun members => ∀ member ∈ members, P member.2)
    (fun member => P member.2) null bool number string array object (List.forall_mem_nil _)
    (fun _ _ first others => List.forall_mem_cons.mpr ⟨first, others⟩) (List.forall_mem_nil _)
    (fun _ _ first others => List.forall_mem_cons.mpr ⟨first, others⟩) (fun _ _ holds => holds)
    value

/-- Whether a reader takes a text for a value, whatever follows the text, with fuel for three steps
for each of its characters. -/
def Reads {α : Type} (read : Nat → List Char → Option (α × List Char)) (text : List Char)
    (value : α) : Prop :=
  ∀ rest fuel, Stops rest → 3 * text.length ≤ fuel → read fuel (text ++ rest) = some (value, rest)

/-- A number ends in front of any text that begins with a mark. -/
theorem stops_cons {mark : Char} (rest : List Char)
    (marks : mark = ',' ∨ mark = ']' ∨ mark = '\x7d') : Stops (mark :: rest) := by
  -- None of the three marks can go on with a number.
  intro c first
  obtain rfl : mark = c := Option.some.inj first
  rcases marks with rfl | rfl | rfl <;> decide

/-- There are no blanks in front of a character that is none. -/
theorem skipBlanks_cons {c : Char} (visible : isBlank c = false) (rest : List Char) :
    skipBlanks (c :: rest) = c :: rest :=
  -- Blanks are skipped up to the first character that is none.
  List.dropWhile_cons_of_neg (by simp [visible])

/-- A digit is no blank. -/
theorem isBlank_of_isDigit {c : Char} (digit : c.isDigit = true) : isBlank c = false := by
  -- None of the four blanks is a digit.
  rw [Bool.eq_false_iff]
  intro blank
  simp only [isBlank, Bool.or_eq_true, beq_iff_eq] at blank
  rcases blank with ((rfl | rfl) | rfl) | rfl <;> exact absurd digit (by decide)

/-- What is written for a value begins neither with a blank nor with the end of an array. -/
theorem exists_render_eq_cons (value : Json) :
    ∃ c rest, render value = c :: rest ∧ isBlank c = false ∧ c ≠ ']' := by
  -- Each kind of value begins with a character of its own.
  cases value with
  | null => exact ⟨_, _, rfl, by decide, by decide⟩
  | bool value => cases value <;> exact ⟨_, _, rfl, by decide, by decide⟩
  -- A number begins with a digit or its sign.
  | number value =>
    obtain ⟨c, digits, split, digit | rfl⟩ := exists_decimal_eq_cons value
    · refine ⟨c, digits, split, isBlank_of_isDigit digit, ?_⟩
      rintro rfl
      exact absurd digit (by decide)
    · exact ⟨'-', digits, split, by decide, by decide⟩
  | string value => exact ⟨_, _, rfl, by decide, by decide⟩
  | array items => cases items <;> exact ⟨_, _, rfl, by decide, by decide⟩
  | object members => cases members <;> exact ⟨_, _, rfl, by decide, by decide⟩

/-- The characters that the values which are no numbers begin with. -/
def marks : List Char := ['n', 't', 'f', '"', '[', '\x7b']

/-- What begins with none of the marks is read as a number. -/
theorem readValue?_number {c : Char} (visible : isBlank c = false) (other : c ∉ marks)
    (fuel : Nat) (text : List Char) :
    readValue? (fuel + 1) (c :: text) =
      (readNumber? (c :: text)).map fun read => (.number read.1, read.2) := by
  rw [readValue?, skipBlanks_cons visible]
  -- In all other cases the first character would be a mark.
  split
  case h_7 => rfl
  all_goals
    rename_i same
    obtain rfl := (List.cons.inj same).1
    exact absurd (by decide) other

/-- A whole number reads back. -/
theorem reads_number (value : Int) : Reads readValue? (render (.number value)) (.number value) := by
  -- The number is read from its first character on, for which one step of fuel is needed.
  intro rest fuel stops enough
  obtain ⟨c, digits, split, begins⟩ := exists_decimal_eq_cons value
  have read := readNumber?_decimal value stops
  simp only [render, split, List.cons_append, List.length_cons] at enough read ⊢
  obtain ⟨fuel, rfl⟩ := Nat.exists_eq_add_of_le' (show 1 ≤ fuel by omega)
  -- Neither a digit nor a sign is a blank or a mark.
  have apart : isBlank c = false ∧ c ∉ marks := by
    rcases begins with digit | rfl
    · refine ⟨isBlank_of_isDigit digit, fun marked => ?_⟩
      have none : ∀ mark ∈ marks, mark.isDigit = false := by simp [marks, Char.isDigit]
      exact absurd digit (by simp [none c marked])
    · decide
  rw [readValue?_number apart.1 apart.2, read]
  rfl

/-- What begins with a quote is read as a string. -/
theorem readValue?_string (fuel : Nat) (inside : List Char) :
    readValue? (fuel + 1) ('"' :: inside) =
      (unquote? inside).map fun read => (.string (String.ofList read.1), read.2) :=
  -- A quote is the mark of a string alone.
  rfl

/-- An array that does not end at once is read by its items. -/
theorem readValue?_items {c : Char} (visible : isBlank c = false) (other : c ≠ ']') (fuel : Nat)
    (text : List Char) :
    readValue? (fuel + 1) ('[' :: c :: text) =
      (readItems? fuel (c :: text)).map fun read => (.array read.1, read.2) := by
  -- Of all marks only the bracket is the first character here.
  rw [readValue?, skipBlanks_cons (by decide)]
  split
  case h_5 inside same =>
    -- The array does not end in front of its first item.
    obtain rfl := (List.cons.inj same).2
    rw [skipBlanks_cons visible]
    split
    case h_1 same => exact absurd (List.cons.inj same).1 other
    case h_2 => rfl
  case h_7 array _ => exact absurd rfl (array _)
  all_goals
    rename_i same
    exact absurd (List.cons.inj same).1 (by decide)

/-- An object that begins with a name is read by its members. -/
theorem readValue?_members (fuel : Nat) (text : List Char) :
    readValue? (fuel + 1) ('\x7b' :: '"' :: text) =
      (readMembers? fuel ('"' :: text)).map fun read => (.object read.1, read.2) :=
  -- A quote is no brace, so the object does not end at once.
  rfl

/-- An item that a bracket follows is the last. -/
theorem readItems?_last {fuel : Nat} {text behind : List Char} {item : Json}
    (read : readValue? fuel text = some (item, ']' :: behind)) :
    readItems? (fuel + 1) text = some ([item], behind) := by
  -- The value is read first, and the bracket behind it ends the array.
  rw [readItems?, read]
  rfl

/-- An item that a comma follows is in front of others. -/
theorem readItems?_more {fuel : Nat} {text behind : List Char} {item : Json}
    (read : readValue? fuel text = some (item, ',' :: behind)) :
    readItems? (fuel + 1) text =
      (readItems? fuel behind).map fun others => (item :: others.1, others.2) := by
  -- The value is read first, and behind the comma the others are read.
  rw [readItems?, read]
  rfl

/-- A name that a colon follows is that of a member. -/
theorem readMember?_named (fuel : Nat) (name : String) (text : List Char) :
    readMember? (fuel + 1) (quoted name ++ ':' :: text) =
      (readValue? fuel text).map fun read => ((name, read.1), read.2) := by
  -- The name is read up to its quote, and the colon stands right behind it.
  have read := unquote?_encode name.toList (':' :: text)
  simp only [quoted, List.cons_append, List.append_assoc, List.nil_append]
  rw [readMember?, skipBlanks_cons (by decide)]
  split
  case h_1 inside same =>
    obtain rfl := (List.cons.inj same).2
    rw [read]
    -- The text of the name is the name.
    conv => rhs; rw [← String.ofList_toList (s := name)]
    rfl
  case h_2 other => exact absurd rfl (other _)

/-- A member that a brace follows is the last. -/
theorem readMembers?_last {fuel : Nat} {text behind : List Char} {member : String × Json}
    (read : readMember? fuel text = some (member, '\x7d' :: behind)) :
    readMembers? (fuel + 1) text = some ([member], behind) := by
  -- The member is read first, and the brace behind it ends the object.
  rw [readMembers?, read]
  rfl

/-- A member that a comma follows is in front of others. -/
theorem readMembers?_more {fuel : Nat} {text behind : List Char} {member : String × Json}
    (read : readMember? fuel text = some (member, ',' :: behind)) :
    readMembers? (fuel + 1) text =
      (readMembers? fuel behind).map fun others => (member :: others.1, others.2) := by
  -- The member is read first, and behind the comma the others are read.
  rw [readMembers?, read]
  rfl

/-- Fuel for a text that is not empty is not zero. -/
theorem exists_fuel {c : Char} {text : List Char} {fuel : Nat}
    (enough : 3 * (c :: text).length ≤ fuel) : ∃ less, fuel = less + 1 := by
  -- Even one character brings fuel for three steps.
  rw [List.length_cons] at enough
  exact Nat.exists_eq_add_of_le' (by omega)

/-- Parts with commas between them read back if each of them does, up to the mark behind them. -/
theorem reads_parts {α : Type} {readPart : Nat → List Char → Option (α × List Char)}
    {readParts : Nat → List Char → Option (List α × List Char)} {renderPart : α → List Char}
    {renderRest : List α → List Char} {mark : Char} (marks : mark = ']' ∨ mark = '\x7d')
    (empty : renderRest [] = [])
    (comma : ∀ part parts,
      renderRest (part :: parts) = ',' :: (renderPart part ++ renderRest parts))
    (last : ∀ {fuel text behind part}, readPart fuel text = some (part, mark :: behind) →
      readParts (fuel + 1) text = some ([part], behind))
    (more : ∀ {fuel text behind part}, readPart fuel text = some (part, ',' :: behind) →
      readParts (fuel + 1) text =
        (readParts fuel behind).map fun others => (part :: others.1, others.2))
    {part : α} {parts : List α}
    (each : ∀ one ∈ part :: parts, Reads readPart (renderPart one) one) :
    Reads readParts (renderPart part ++ renderRest parts ++ [mark]) (part :: parts) := by
  -- A part takes one step of fuel, and a comma or the mark stands behind it.
  induction parts generalizing part with
  | nil =>
    intro rest fuel stops enough
    simp only [empty, List.append_nil, List.length_append, List.length_singleton] at enough
    -- One step is spent here, and the part is read with the others.
    obtain ⟨fuel, rfl⟩ := Nat.exists_eq_add_of_le' (show 1 ≤ fuel by omega)
    have read := each part List.mem_cons_self (mark :: rest) fuel (stops_cons rest (.inr marks))
      (by omega)
    rw [empty, List.append_nil, List.append_assoc]
    exact last read
  | cons next parts ih =>
    intro rest fuel stops enough
    simp only [comma, List.append_assoc, List.length_append, List.length_cons] at enough
    obtain ⟨fuel, rfl⟩ := Nat.exists_eq_add_of_le' (show 1 ≤ fuel by omega)
    have read := each part List.mem_cons_self (renderRest (next :: parts) ++ mark :: rest) fuel
      (comma next parts ▸ stops_cons _ (.inl rfl)) (by omega)
    -- The part and its comma used up more fuel than they brought, so the rest has enough.
    have others := ih (List.forall_mem_cons.mp each).2 rest fuel stops
      (by simp only [List.length_append, List.length_cons]; omega)
    simp only [comma, List.append_assoc, List.nil_append, List.cons_append] at read others ⊢
    rw [more read, others]
    rfl

/-- The items of an array read back if each of them does. -/
theorem reads_items {item : Json} {items : List Json}
    (each : ∀ part ∈ item :: items, Reads readValue? (render part) part) :
    Reads readItems? (render item ++ renderItems items ++ [']']) (item :: items) :=
  -- Items are such parts, with a bracket behind them.
  reads_parts (.inl rfl) rfl (fun _ _ => rfl) readItems?_last readItems?_more each

/-- A member of an object reads back if its value does. -/
theorem reads_member {name : String} {value : Json}
    (reads : Reads readValue? (render value) value) :
    Reads readMember? (renderMember (name, value)) (name, value) := by
  -- Behind the name and the colon there is the value, with the fuel that is left.
  intro rest fuel stops enough
  simp only [renderMember, List.length_append, List.length_cons] at enough
  obtain ⟨fuel, rfl⟩ := Nat.exists_eq_add_of_le' (show 1 ≤ fuel by omega)
  have read := reads rest fuel stops (by omega)
  rw [renderMember, List.append_assoc, List.cons_append, readMember?_named, read]
  rfl

/-- The members of an object read back if the value of each of them does. -/
theorem reads_members {member : String × Json} {members : List (String × Json)}
    (each : ∀ part ∈ member :: members, Reads readValue? (render part.2) part.2) :
    Reads readMembers? (renderMember member ++ renderMembers members ++ ['\x7d'])
      (member :: members) :=
  -- Members are such parts, with a brace behind them.
  reads_parts (.inr rfl) rfl (fun _ _ => rfl) readMembers?_last readMembers?_more
    fun part among => reads_member (each part among)

/-- A value reads back from its text. -/
theorem reads_render (value : Json) : Reads readValue? (render value) value := by
  -- The cases are the kinds of values, and what stands in a value reads back by induction.
  induction value using induction with
  | null =>
    intro rest fuel stops enough
    obtain ⟨fuel, rfl⟩ := exists_fuel enough
    rfl
  | bool value =>
    intro rest fuel stops enough
    cases value with
    | false =>
      obtain ⟨fuel, rfl⟩ := exists_fuel enough
      rfl
    | true =>
      obtain ⟨fuel, rfl⟩ := exists_fuel enough
      rfl
  | number value => exact reads_number value
  | string value =>
    intro rest fuel stops enough
    obtain ⟨fuel, rfl⟩ := exists_fuel enough
    -- The string is read up to the quote that was written behind it.
    have read := unquote?_encode value.toList rest
    simp only [render, quoted, List.cons_append, List.append_assoc, List.nil_append]
    rw [readValue?_string, read, Option.map_some, String.ofList_toList]
  | array items each =>
    intro rest fuel stops enough
    cases items with
    | nil =>
      obtain ⟨fuel, rfl⟩ := exists_fuel enough
      rfl
    | cons item items =>
      obtain ⟨fuel, rfl⟩ := exists_fuel enough
      -- The first item shows that the array is not empty.
      obtain ⟨c, text, split, visible, other⟩ := exists_render_eq_cons item
      have read := reads_items each rest fuel stops (by simp [render] at enough ⊢; omega)
      simp only [render, split, List.cons_append, List.append_assoc] at read ⊢
      rw [readValue?_items visible other, read]
      rfl
  | object members each =>
    intro rest fuel stops enough
    cases members with
    | nil =>
      obtain ⟨fuel, rfl⟩ := exists_fuel enough
      rfl
    | cons member members =>
      obtain ⟨name, value⟩ := member
      obtain ⟨fuel, rfl⟩ := exists_fuel enough
      have read := reads_members each rest fuel stops (by simp [render] at enough ⊢; omega)
      -- The text of the first member begins with the quote of its name.
      simp only [render, renderMember, quoted, List.cons_append, List.append_assoc] at read ⊢
      rw [readValue?_members, read]
      rfl

/-- Every value reads back from its text. -/
theorem parse?_render (value : Json) : parse? (render value) = some value := by
  -- Nothing follows the value, and the fuel is enough for all of its characters.
  have read := reads_render value [] (3 * (render value).length + 1) nofun (Nat.le_succ _)
  rw [List.append_nil] at read
  rw [parse?, read]
  rfl

/-- Parts with commas between them are printable if each of them is. -/
theorem printable_parts {α : Type} {renderPart : α → List Char} {renderRest : List α → List Char}
    (empty : renderRest [] = [])
    (comma : ∀ part parts,
      renderRest (part :: parts) = ',' :: (renderPart part ++ renderRest parts))
    {parts : List α} (each : ∀ part ∈ parts, Printable (renderPart part)) :
    Printable (renderRest parts) := by
  -- A comma is printable, so each part is in front of printable others.
  induction parts with
  | nil => simp [empty]
  | cons part parts ih =>
    obtain ⟨first, others⟩ := List.forall_mem_cons.mp each
    simp [comma, first, ih others]

/-- The text of every value is printable. -/
theorem printable_render (value : Json) : Printable (render value) := by
  -- The cases are the kinds of values, and all marks between their parts are printable.
  induction value using induction with
  | null => decide
  | bool value => cases value <;> decide
  | number value => exact printable_decimal value
  | string value => exact printable_quoted value
  | array items each =>
    cases items with
    | nil => decide
    | cons item items =>
      -- Brackets stand around the items, and commas between them.
      obtain ⟨first, others⟩ := List.forall_mem_cons.mp each
      have rest : Printable (renderItems items) := printable_parts rfl (fun _ _ => rfl) others
      simp [render, first, rest]
  | object members each =>
    cases members with
    | nil => decide
    | cons member members =>
      -- A member is its quoted name, a colon and its value.
      have whole : ∀ part ∈ member :: members, Printable (renderMember part) := by
        rintro ⟨name, value⟩ among
        have inside : Printable (render value) := each (name, value) among
        simp [renderMember, printable_quoted, inside]
      obtain ⟨first, others⟩ := List.forall_mem_cons.mp whole
      have rest : Printable (renderMembers members) := printable_parts rfl (fun _ _ => rfl) others
      simp [render, first, rest]

end ObjectStorage.Json
