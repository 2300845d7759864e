/-! Text without what controls a terminal: control characters, and the sequences that the escape
character opens. -/

namespace ObjectStorage.Text

/-- Where a character stands among control sequences. -/
inductive Control where
  /-- Outside any sequence. -/
  | closed
  /-- Right after the escape character. -/
  | opened
  /-- In a sequence that only awaits its last character. -/
  | intermediate
  /-- In a sequence with parameters, which ends with a letter or the like. -/
  | parameters
  /-- In a command to the operating system, which a bell ends. -/
  | command
  /-- At the head of a string for a device. -/
  | device
  /-- Among the parameters of a string for a device. -/
  | deviceParameters
  /-- Among the characters that end the head of a string for a device. -/
  | deviceIntermediate
  /-- In a string that is not for the screen. -/
  | string

/-- Whether a control character is white space. The vertical tab is none. -/
def isSpacing (c : Char) : Bool := c = '\t' || c = '\n' || c = '\x0c' || c = '\r'

namespace Control

/-- Where a text stands after a control character; none if the character is shown. White space is
shown except in strings and commands, and a bell ends a command. -/
def afterControl? : Control → Char → Option Control
  | .command, c => some (if c = '\x07' then .closed else .command)
  | .device, _ => some .device
  | .deviceParameters, _ => some .deviceParameters
  | .deviceIntermediate, _ => some .deviceIntermediate
  | .string, _ => some .string
  -- Everywhere else a control leaves the sequence where it is.
  | control, c => if isSpacing c then none else some control

/-- Where a sequence stands after a character from the space on. A string ends at the byte 9C, be
it in the middle of a character. -/
def afterGraphic : Control → Char → Control
  | .closed, _ => .closed
  | .opened, c =>
    if c = '[' then .parameters
    else if c = ']' then .command
    else if c = 'P' then .device
    else if c = 'X' || c = '^' || c = '_' then .string
    else if c ≤ '/' then .intermediate
    else if c ≤ '~' then .closed
    else .opened
  | .intermediate, c => if '0' ≤ c && c ≤ '~' then .closed else .intermediate
  | .parameters, c => if '@' ≤ c && c ≤ '~' then .closed else .parameters
  | .command, _ => .command
  | .device, c =>
    if c ≤ '/' then .deviceIntermediate
    else if c ≤ '?' then .deviceParameters
    else if c ≤ '~' then .string
    else .device
  | .deviceParameters, c =>
    if c ≤ '/' then .deviceIntermediate
    else if c ≤ ';' then .deviceParameters
    else if c ≤ '~' then .string
    else .deviceParameters
  | .deviceIntermediate, c => if '0' ≤ c && c ≤ '~' then .string else .deviceIntermediate
  | .string, c => if (String.utf8EncodeChar c).contains 0x9c then .closed else .string

/-- Where a text stands after a character that is not shown; none if it is shown. The escape
character opens a new sequence anywhere, and cancel and substitute end any. -/
def after? (control : Control) (c : Char) : Option Control :=
  if c = '\x1b' then some .opened
  else if c = '\x18' || c = '\x1a' then some .closed
  else if c < ' ' then control.afterControl? c
  else
    match control with
    | .closed => if c = '\x7f' then some .closed else none
    | control => some (control.afterGraphic c)

/-- What is shown inside a sequence is shown outside of any. -/
theorem after?_closed {control : Control} {c : Char} (shown : control.after? c = none) :
    Control.closed.after? c = none := by
  -- Only white space is shown inside a sequence, and that is shown everywhere but in strings.
  cases control <;> simp only [after?, afterControl?] at shown ⊢ <;> grind

/-- The characters of a text that are shown. One that is shown ends any sequence. -/
def shownFrom (control : Control) : List Char → List Char
  | [] => []
  | c :: rest =>
    match control.after? c with
    | none => c :: shownFrom .closed rest
    | some control => shownFrom control rest

/-- Text all of whose characters are shown stays as it is. -/
theorem shownFrom_of_forall {text : List Char}
    (shown : ∀ c ∈ text, Control.closed.after? c = none) : shownFrom .closed text = text := by
  induction text with
  | nil => rfl
  -- A character that is shown leaves the text outside any sequence.
  | cons c rest ih =>
    rw [shownFrom, shown c (by simp)]
    exact congrArg (c :: ·) (ih fun d member => shown d (by simp [member]))

/-- What is left of a text holds no controls. -/
theorem after?_of_mem_shownFrom {control : Control} {text : List Char} :
    ∀ c ∈ shownFrom control text, Control.closed.after? c = none := by
  fun_induction shownFrom control text with
  | case1 => simp
  | case2 control c rest shown ih =>
    -- This character is left, wherever the text stood before it.
    intro d member
    rcases List.mem_cons.mp member with rfl | member
    · exact after?_closed shown
    · exact ih d member
  -- This character is left out.
  | case3 _ _ _ _ _ ih => exact ih

/-- Nothing more goes when controls are left out of what is left. -/
theorem shownFrom_shownFrom (control : Control) (text : List Char) :
    shownFrom .closed (shownFrom control text) = shownFrom control text :=
  shownFrom_of_forall after?_of_mem_shownFrom

end Control

/-- A text without controls. -/
def uncontrolled (text : String) : String := String.ofList (Control.closed.shownFrom text.toList)

end ObjectStorage.Text
