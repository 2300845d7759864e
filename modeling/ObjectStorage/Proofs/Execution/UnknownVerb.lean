import ObjectStorage.Execution
import ObjectStorage.Proofs.CommandLine.Flags

/-! A verb that the program does not know takes the rest of the line as it is, so nothing behind it
is an option or an error; a run with such a verb only says that it is unknown. -/

namespace ObjectStorage

namespace CommandLine

/-- What makes a word a verb that the program does not know: two dashes in front of it, or nothing
if it is none of the verbs and stands for itself. -/
inductive Introduces (verb : String) : List Word → Prop
  | dashes : Introduces verb [.text "--"]
  | nothing (strange : ∀ known : Verb, verb ≠ known.name) (plain : (Word.text verb).Plain) :
    Introduces verb []

/-- Text that is the name of no verb is read as none. -/
theorem Verb.ofWord?_eq_none {verb : String} (strange : ∀ known : Verb, verb ≠ known.name) :
    ofWord? (.text verb) = none := by
  -- A verb is looked for by its name, and this name is none of them.
  refine List.find?_eq_none.mpr fun known _ => ?_
  simpa [Word.text?] using strange known

/-- An unknown verb takes text as it is. -/
theorem parseUnknown_text (flags : Flags) (verb : String) (others : List String) :
    parseUnknown flags (.text verb) (others.map .text) = .ok ⟨flags, .unknown verb others⟩ := by
  -- All words are text, so none of them is refused.
  have texts : (others.map Word.text).mapM Word.text? = some others := by
    induction others with
    | nil => rfl
    | cons other others ih => rw [List.map_cons, List.mapM_cons, ih]; rfl
  simp only [parseUnknown, texts]
  rfl

/-- A verb that is introduced as unknown is read with all words behind it. -/
theorem parseFrom_introduced {marker : List Word} {verb : String}
    (introduces : Introduces verb marker) (flags : Flags) (others : List String) :
    parseFrom flags (marker ++ .text verb :: others.map .text) =
      .ok ⟨flags, .unknown verb others⟩ := by
  -- Behind the dashes any word is a verb; without them it must be read as no option.
  cases introduces with
  | dashes => exact parseUnknown_text flags verb others
  | nothing strange plain =>
    simp only [List.nil_append, parseFrom, Verb.ofWord?_eq_none strange, ofGlyphs_of_plain plain]
    exact parseUnknown_text flags verb others

end CommandLine

open CommandLine (Flag Flags Introduces Spelling)

/-- A run on a line with an unknown verb reads no settings and calls nothing: it says which verb it
does not know. -/
theorem run_unknown {σ : Type} (outside : Surroundings σ) (fuel : Nat) {words : List Word}
    {flags : Flags} {verb : String} {others : List String}
    (parsed : CommandLine.parse words = .ok ⟨flags, .unknown verb others⟩) (state : σ) :
    (runProgram outside fuel words).run state =
      ⟨.ok (some .generalError), state, [.reported ("Unknown command: " ++ verb)]⟩ := by
  -- The command line was read, and nothing else has to be done.
  rw [runProgram, parsed]
  rfl

/-- An unknown verb takes the rest of the line: all words behind it are kept as they are, whatever
they look like, and only the flags in front of it are set. The run reports the verb and fails. -/
theorem unknown_verb_takes_rest (flags : List Spelling)
    (once : (flags.map Spelling.flag).Nodup) {marker : List Word} {verb : String}
    (introduces : Introduces verb marker) (others : List String) :
    let words := flags.map Spelling.word ++ (marker ++ .text verb :: others.map .text)
    (∃ set : Flags, (∀ flag, set.has flag = true ↔ flag ∈ flags.map Spelling.flag) ∧
      CommandLine.parse words = .ok ⟨set, .unknown verb others⟩) ∧
    ∀ {σ : Type} (outside : Surroundings σ) (fuel : Nat) (state : σ),
      ∃ status : ExitStatus, status.code = 1 ∧
        (runProgram outside fuel words).run state =
          ⟨.ok (some status), state, [.reported ("Unknown command: " ++ verb)]⟩ := by
  -- The flags in front are read first, and then the verb takes what is left.
  intro words
  have parsed : CommandLine.parse words =
      .ok ⟨.ofList (flags.map Spelling.flag), .unknown verb others⟩ := by
    rw [CommandLine.parse_spellings once, CommandLine.parseFrom_introduced introduces]
  exact ⟨⟨_, Flags.has_ofList _, parsed⟩, fun outside fuel state =>
    ⟨.generalError, rfl, run_unknown outside fuel parsed state⟩⟩

/-- Help is no verb, and two dashes make an unknown verb of a verb: what stands behind them would be
help or an option elsewhere. -/
theorem unknown_verb_takes_rest_of_options :
    ([⟨.quiet, true⟩].map Spelling.flag).Nodup ∧
    Introduces "help" [] ∧ Introduces "ls" [.text "--"] ∧
    (∃ set : Flags, (∀ flag, set.has flag = true ↔ flag ∈ [Flag.quiet]) ∧
      CommandLine.parse [.text "-q", .text "help", .text "--help", .text "-q", .text "put"] =
        .ok ⟨set, .unknown "help" ["--help", "-q", "put"]⟩) ∧
    ∃ status : ExitStatus, status.code = 1 ∧
      (runProgram ⟨.error (.general ""), fun _ => .error (.general ""), false, none⟩ 0
        [.text "-q", .text "--", .text "ls", .text "--", .text "--nope"]).run () =
        ⟨.ok (some status), (), [.reported "Unknown command: ls"]⟩ := by
  -- Of the one line the reading is taken from the law, and of the other the run.
  have once : ([⟨.quiet, true⟩].map Spelling.flag).Nodup := by decide
  have help : Introduces "help" [] :=
    .nothing (fun known => by cases known <;> decide) (.inr (by decide))
  have known : Introduces "ls" [.text "--"] := .dashes
  obtain ⟨parsed, -⟩ := unknown_verb_takes_rest _ once help ["--help", "-q", "put"]
  obtain ⟨-, runs⟩ := unknown_verb_takes_rest _ once known ["--", "--nope"]
  exact ⟨once, help, known, parsed, runs _ _ _⟩

end ObjectStorage
