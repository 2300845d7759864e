import ObjectStorage.Proofs.CommandLine.Acceptance
import ObjectStorage.Proofs.CommandLine.Flags

/-! Behind two dashes every word is a value, whatever it looks like, so every operation can be
written as a command line that asks for just this operation. -/

namespace ObjectStorage.CommandLine

namespace Progress

variable {verb : Verb} {progress : Progress}

/-- Behind two dashes a word is taken as it is. -/
theorem read_escaped (verb : Verb) (escaped : progress.escaped = true) (word : Word) :
    progress.read verb word = progress.takeValue verb word := by
  -- Such a word is not even looked at for a dash.
  rw [read, if_pos escaped]

/-- Reading words behind two dashes decides about all of them as values, and no flag is set. -/
theorem decides_read_escaped (words : List Word) (sound : Sound verb progress)
    (escaped : progress.escaped = true) :
    Decides verb (progress.values ++ words) progress.flags true
      (words.foldlM (read verb) progress >>= settle verb) := by
  -- Each word waits for the next one, and the end of the line looks at the last.
  induction words generalizing progress with
  | nil => simpa [escaped] using decides_settle sound
  | cons word words ih =>
    rw [List.foldlM_cons, bind_assoc, read_escaped verb escaped]
    refine decides_takeValue sound fun waits => ?_
    have rest := ih waits escaped
    rwa [values, List.append_assoc] at rest

/-- Two dashes in front leave nothing but values. -/
theorem decides_escaped (verb : Verb) (words : List Word) :
    Decides verb words {} true ((.text "--" :: words).foldlM (read verb) {} >>= settle verb) := by
  -- The dashes settle nothing, since no value waits in front of them.
  have dashes : read verb {} (.text "--") = .ok { escaped := true } := rfl
  rw [List.foldlM_cons, dashes]
  exact decides_read_escaped words (sound_start verb true) rfl

end Progress

section Escaped

variable {flags : List Spelling}

/-- A line with two dashes behind its verb is read for the verb, with the flags in front. -/
theorem parse_escaped (once : (flags.map Spelling.flag).Nodup) (verb : Verb) (words : List Word) :
    parse (escaped flags verb words) =
      (parseVerb verb (.text "--" :: words)).map fun read =>
        ⟨(Flags.ofList (flags.map Spelling.flag)).union read.1, .operation read.2⟩ := by
  -- In front of the verb there are only flags, each of which is new.
  rw [escaped, parse_spellings once, parseFrom_verb]

/-- Every operation reads back from the line that it is written as, with just the flags in front. No
word behind the two dashes acts as an option: such a line asks for the operation that has all the
words as its values, or the words are refused as values. -/
theorem operations_read_back (flags : List Spelling) (once : (flags.map Spelling.flag).Nodup) :
    ∃ set : Flags, (∀ flag, set.has flag = true ↔ flag ∈ flags.map Spelling.flag) ∧
      (∀ operation : Operation, operation.isWritable = true →
        parse (written flags operation) = .ok ⟨set, .operation operation⟩) ∧
      ∀ verb words,
        (∀ invocation, parse (escaped flags verb words) = .ok invocation →
          ∃ operation : Operation, operation.verb = verb ∧ operation.values = words ∧
            operation.isWritable = true ∧ invocation = ⟨set, .operation operation⟩) ∧
        ∀ rejection, parse (escaped flags verb words) = .error rejection →
          Refuses verb words rejection := by
  -- One set of flags serves all lines, since only the words in front of the verb set any.
  refine ⟨Flags.ofList (flags.map Spelling.flag), Flags.has_ofList _, ?_, ?_⟩
  · intro operation writable
    -- The values are taken as they are, and an operation that can be asked for is made of them.
    have decides := Progress.decides_escaped operation.verb operation.values
    rw [written, parse_escaped once, parseVerb_of_values operation decides writable, Except.map,
      Flags.union_none]
  · intro verb words
    rw [parse_escaped once]
    -- Whatever the words are, they are values or they are refused as such.
    rcases parseVerb_cases (Progress.decides_escaped verb words) with
      ⟨operation, named, same, writable, understood⟩ | ⟨rejection, refused, refuses⟩
    · rw [understood, Except.map, Flags.union_none]
      refine ⟨fun invocation found => ?_, nofun⟩
      exact ⟨operation, named, same, writable, (Except.ok.inj found).symm⟩
    · rw [refused]
      refine ⟨nofun, fun other found => ?_⟩
      exact Except.error.inj found ▸ refuses

/-- An upload whose path is a byte that is no text, and whose bucket and key look like an option and
two dashes. -/
def Operation.disguised : Operation :=
  .put (.raw #[0xff] (by decide)) ⟨"--help", "--"⟩

/-- The disguised upload is asked for by a line with two flags, and words that look like options are
too many for a listing. -/
theorem operations_read_back_disguised :
    ([⟨.quiet, true⟩, ⟨.json, false⟩].map Spelling.flag).Nodup ∧
    Operation.disguised.isWritable = true ∧
    ∃ set : Flags, (∀ flag, set.has flag = true ↔ flag ∈ [.quiet, .json]) ∧
      parse [.text "-q", .text "--json", .text "put", .text "--", .raw #[0xff] (by decide),
        .text "--help", .text "--"] = .ok ⟨set, .operation .disguised⟩ ∧
      ∃ rejection,
        parse [.text "-q", .text "--json", .text "ls", .text "--", .text "--debug", .text "--",
          .text "-h"] = .error rejection ∧
        Refuses .list [.text "--debug", .text "--", .text "-h"] rejection := by
  -- The law gives the reading of both lines, and only its hypothesis is left to check.
  have once : ([⟨.quiet, true⟩, ⟨.json, false⟩].map Spelling.flag).Nodup := by decide
  obtain ⟨set, named, back, reads⟩ := operations_read_back [⟨.quiet, true⟩, ⟨.json, false⟩] once
  exact ⟨once, rfl, set, named, back .disguised rfl, _, rfl, (reads .list _).2 _ rfl⟩

end Escaped

end ObjectStorage.CommandLine
