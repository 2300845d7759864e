import Mathlib.Data.List.Basic
import ObjectStorage.Proofs.CommandLine.Spelling

/-! Flags that are set, and flags in front of a verb: each is noted once, and the rest of the line
is read with them. -/

namespace ObjectStorage.CommandLine

namespace Flags

/-- Setting a flag sets no other. -/
theorem has_add (flags : Flags) (flag other : Flag) :
    (flags.add flag).has other = (flags.has other || decide (other = flag)) := by
  -- There are few flags, so all pairs of them are looked at.
  cases flag <;> cases other <;> simp [has, add]

/-- A flag is set in a union if it is set on either side. -/
theorem has_union (first second : Flags) (flag : Flag) :
    (first.union second).has flag = (first.has flag || second.has flag) := by
  -- A union is made flag by flag.
  cases flag <;> rfl

/-- Setting several flags sets these and no others. -/
theorem has_foldl_add (flags : Flags) (added : List Flag) (flag : Flag) :
    (added.foldl add flags).has flag = (flags.has flag || decide (flag ∈ added)) := by
  -- The induction lets the flags that are set before vary, since each step sets one more.
  induction added generalizing flags with
  | nil => simp
  | cons other added ih => simp [ih, has_add, Bool.or_assoc]

/-- Setting a flag sets none of those it is not among. -/
theorem has_add_of_notMem {flags : Flags} {flag : Flag} {others : List Flag} (new : flag ∉ others)
    (fresh : ∀ other ∈ others, flags.has other = false) :
    ∀ other ∈ others, (flags.add flag).has other = false := by
  -- The flag that is set is none of the others, so these stay as they are.
  intro other among
  have differ : other ≠ flag := fun same => new (same ▸ among)
  simp [has_add, fresh other among, differ]

/-- Of no flags none is set. -/
theorem has_none (flag : Flag) : has {} flag = false := by
  -- Every field of the flags begins unset.
  cases flag <;> rfl

/-- The flags of a list are those that it names. -/
theorem has_ofList (named : List Flag) (flag : Flag) :
    (ofList named).has flag = true ↔ flag ∈ named := by
  -- A list is set from no flags at all, so only its own are there.
  simp [ofList, has_foldl_add, has_none]

/-- No more flags are set where none is added. -/
theorem union_none (flags : Flags) : flags.union {} = flags := by
  -- Nothing is added to any field.
  simp [union]

end Flags

/-- A flag that is not set yet can be set. -/
theorem apply_flag {position : Position} {flags : Flags} {flag : Flag}
    (fresh : flags.has flag = false) :
    apply position flags (.flag flag) = .ok (flags.add flag) := by
  -- Only a flag that is set already would be refused.
  simp [apply, fresh]

/-- Flags in front of a verb are noted, and the rest is read with them. -/
theorem parseFrom_spellings {flags : Flags} {before : List Spelling} {rest : List Word}
    (once : (before.map Spelling.flag).Nodup)
    (fresh : ∀ flag ∈ before.map Spelling.flag, flags.has flag = false) :
    parseFrom flags (before.map Spelling.word ++ rest) =
      parseFrom ((before.map Spelling.flag).foldl Flags.add flags) rest := by
  -- Every flag is new when it is read, so none is refused.
  induction before generalizing flags with
  | nil => rfl
  | cons spelling before ih =>
    -- The first flag is none of those behind it, so these are still new when it is set.
    obtain ⟨new, once⟩ := List.nodup_cons.mp once
    obtain ⟨own, fresh⟩ := List.forall_mem_cons.mp fresh
    rw [List.map_cons, List.cons_append, parseFrom_spelling, apply_flag own]
    exact ih once (Flags.has_add_of_notMem new fresh)

/-- A line with flags in front is read with these flags. -/
theorem parse_spellings {before : List Spelling} (once : (before.map Spelling.flag).Nodup)
    (rest : List Word) :
    parse (before.map Spelling.word ++ rest) =
      parseFrom (Flags.ofList (before.map Spelling.flag)) rest :=
  -- Before the line is read no flag is set, so every one of them is new.
  parseFrom_spellings once fun flag _ => Flags.has_none flag

/-- A verb is read with the words behind it, and its flags join those in front of it. -/
theorem parseFrom_verb (flags : Flags) (verb : Verb) (rest : List Word) :
    parseFrom flags (.text verb.name :: rest) =
      (parseVerb verb rest).map fun read => ⟨flags.union read.1, .operation read.2⟩ := by
  -- A verb is found by its name before the word is looked at for a dash.
  have known : Verb.ofWord? (.text verb.name) = some verb := by cases verb <;> rfl
  simp only [parseFrom, known]
  cases parseVerb verb rest <;> rfl

end ObjectStorage.CommandLine
