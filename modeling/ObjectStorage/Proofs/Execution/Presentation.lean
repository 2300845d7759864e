import ObjectStorage.Proofs.Execution.Perform

/-! How results and errors are presented changes nothing about what is done: runs in two styles read
the same settings, make the same calls, leave the same state and end with the same status. -/

namespace ObjectStorage

open CommandLine (Operation)

namespace Event

/-- Whether an event only tells of something. -/
def telling : Event → Bool
  | .wrote _ _ => true
  | .reported _ => true
  | _ => false

/-- What a trace does besides telling: the settings that are read, the connections that are asked
for and the calls that are made. -/
def deeds (trace : List Event) : List Event := trace.filter fun event => !event.telling

/-- The deeds of two traces come one after the other. -/
theorem deeds_append (earlier later : List Event) :
    deeds (earlier ++ later) = deeds earlier ++ deeds later :=
  -- Each event is kept or left out by itself.
  List.filter_append ..

/-- Events that only tell are no deeds. -/
theorem deeds_eq_nil {trace : List Event} (tells : ∀ event ∈ trace, event.telling = true) :
    deeds trace = [] := by
  -- The filter keeps none of them.
  refine List.filter_eq_nil_iff.mpr fun event member => ?_
  simp [tells event member]

/-- What two traces leave on standard error comes one after the other. -/
theorem standardError_append (earlier later : List Event) :
    standardError (earlier ++ later) = standardError earlier ++ standardError later := by
  -- Standard error is what was reported, line by line.
  rw [standardError_eq, standardError_eq, standardError_eq, reports_append, List.map_append,
    String.join_append]

end Event

/-- Two outcomes of the same work: they do the same, leave the same state and have the same result,
whatever they tell. -/
structure SameWork {σ α : Type} (first second : Outcome Event σ α) : Prop where
  deeds : Event.deeds first.events = Event.deeds second.events
  state : first.state = second.state
  value : first.value = second.value

/-- Work stays the same behind events with the same deeds. -/
theorem SameWork.after {σ α : Type} {first second : Outcome Event σ α}
    (same : SameWork first second) {one other : List Event}
    (deeds : Event.deeds one = Event.deeds other) :
    SameWork (first.after one) (second.after other) where
  -- Only the traces change, and they begin with the same deeds.
  deeds := by
    simp only [Outcome.after, Event.deeds_append, deeds, same.deeds]
  state := same.state
  value := same.value

/-- A run that depends on the style only in what it tells. -/
structure Presented {σ α : Type} (run : Style → Outcome Event σ α) : Prop where
  work : ∀ one other, SameWork (run one) (run other)
  /-- A quiet run leaves nothing on standard output. -/
  hushed : ∀ style : Style, Event.standardOutput (run { style with quiet := true }).events = ""
  /-- Being quiet changes nothing about standard error. -/
  errors : ∀ (style : Style) quiet, Event.standardError (run { style with quiet }).events =
    Event.standardError (run style).events
  /-- Colors change nothing about standard output. -/
  output : ∀ (style : Style) noColor, Event.standardOutput (run { style with noColor }).events =
    Event.standardOutput (run style).events

section Listing

variable {σ : Type} (store : Store σ)

/-- Offering a line only tells. -/
theorem Sink.deeds_offer (sink : Sink) (line : String) : Event.deeds (sink.offer line).2 = [] := by
  -- An offer leaves at most a line behind, whatever the sink is.
  refine Event.deeds_eq_nil ?_
  rcases sink with _ | _ | _ | room <;> simp [Sink.offer, Event.telling]

/-- A sink that lasts is the same behind an offer. -/
theorem Sink.offer_of_endless (sink : Sink) (line : String) (lasts : sink.endless = true) :
    sink.offer line = (some sink, (sink.offer line).2) :=
  -- Only a sink that fails is replaced.
  Prod.ext (sink.offer_endless line lasts) rfl

/-- Where a listing is written and in which form changes nothing about the work, unless the sink
fails. -/
theorem sameWork_writeListing {sink other : Sink} (lasts : sink.endless = true)
    (otherLasts : other.endless = true) (json otherJson : Bool) (fuel : Nat) (listing : Listing)
    (count : Nat) (state : σ) :
    SameWork ((writeListing store json fuel sink listing count).run state)
      ((writeListing store otherJson fuel other listing count).run state) := by
  -- Both make the same pull, and a sink that lasts is ready for the rest.
  induction fuel generalizing listing count state with
  | zero => exact ⟨rfl, rfl, rfl⟩
  | succ fuel ih =>
    cases pulled : (listing.pull store fuel).run state with
    | mk value next made =>
      obtain ⟨answer, after⟩ := value
      by_cases handed : ∃ entry, answer = .entry entry
      · obtain ⟨entry, rfl⟩ := handed
        rw [run_writeListing_offer store json pulled (sink.offer_of_endless _ lasts),
          run_writeListing_offer store otherJson pulled (other.offer_of_endless _ otherLasts)]
        refine (ih after (count + 1) next).after ?_
        -- The calls are the same, and the offers are no deeds.
        rw [Event.deeds_append, Event.deeds_append, sink.deeds_offer, other.deeds_offer]
      · have none := not_exists.mp handed
        rw [run_writeListing_ceased store json pulled none,
          run_writeListing_ceased store otherJson pulled none]
        exact ⟨rfl, rfl, rfl⟩

end Listing

section Perform

variable {σ : Type} (store : Store σ) (fuel : Nat) (state : σ)

/-- What a console shows of a reply only tells. -/
theorem Console.deeds_showing (console : Console) (document : Json) :
    Event.deeds (console.showing document) = [] := by
  -- At most one line is shown, and that is no deed.
  unfold Console.showing
  split <;> rfl

/-- A command that makes one call depends on the style only in what it tells. -/
theorem presented_single (complaint : String) (call : StoreCall) (document : call.Reply → Json) :
    Presented fun style =>
      (single store ⟨style, none⟩ complaint call document).run state := by
  -- The answer does not depend on the style, so it is looked at first.
  cases answered : store.answer call state with
  | mk answer next =>
    cases answer with
    | ok reply =>
      have run := fun style =>
        run_single_replied store ⟨style, none⟩ state complaint document answered
      simp only [run]
      constructor
      case work =>
        -- Of what is done for the reply, the call is all that does not only tell.
        have deed : ∀ style : Style, Event.deeds (.called ⟨call, .ok reply⟩ ::
            Console.showing ⟨style, none⟩ (document reply)) = [.called ⟨call, .ok reply⟩] := by
          intro style
          rw [← List.singleton_append, Event.deeds_append, Console.deeds_showing]
          rfl
        exact fun one other => ⟨by rw [deed, deed], rfl, rfl⟩
      -- A quiet console shows nothing of the reply.
      case hushed =>
        intro style
        simp [Console.showing, Event.standardOutput, Event.output]
      case errors =>
        -- A reply is shown on standard output, if anywhere.
        have silent : ∀ style : Style, Event.standardError (.called ⟨call, .ok reply⟩ ::
            Console.showing ⟨style, none⟩ (document reply)) = "" := by
          intro style
          have serving := (Console.showing_serves ⟨style, none⟩ (document reply)).1
          rw [Event.standardError_eq,
            Event.reports_eq_nil (List.forall_mem_cons.mpr ⟨rfl, serving⟩)]
          rfl
        intro style quiet
        rw [silent, silent]
      case output => exact fun style noColor => rfl
    | error error =>
      have run := fun style =>
        run_single_failed store ⟨style, none⟩ state complaint document answered
      simp only [run]
      -- The report is on standard error, in a line that does not depend on being quiet.
      exact ⟨fun one other => ⟨rfl, rfl, rfl⟩, fun style => rfl, fun style quiet => rfl,
        fun style noColor => rfl⟩

section List

variable (bucket : String) (keyPrefix : Option String)

/-- An output without limits lasts, and so does none at all. -/
theorem Console.endless_sink (style : Style) : (Console.sink ⟨style, none⟩).endless = true := by
  -- Without a limit every line is taken.
  unfold Console.sink
  split <;> rfl

/-- What is told behind a listing is no deed and not on standard output. -/
theorem told_of_concluded (console : Console) (complaint : String)
    (value : Option (Except StorageError Nat)) :
    let told := ((value.map (concluded console complaint)).map Prod.snd).getD []
    Event.deeds told = [] ∧ Event.standardOutput told = "" := by
  -- At most one error is reported.
  rcases value with _ | error | count <;> exact ⟨rfl, rfl⟩

/-- A listing command depends on the style only in what it tells. -/
theorem presented_list :
    Presented fun style =>
      (perform store ⟨style, none⟩ fuel (.list bucket keyPrefix)).run state := by
  -- Whatever the style is, writing the listing is the same work.
  have run := fun style => run_perform_list store ⟨style, none⟩ fuel state bucket keyPrefix
  have same : ∀ one other : Style,
      SameWork (listed store ⟨one, none⟩ fuel state bucket keyPrefix)
        (listed store ⟨other, none⟩ fuel state bucket keyPrefix) := fun one other =>
    sameWork_writeListing store (Console.endless_sink one) (Console.endless_sink other) _ _ _ _ _ _
  have told := fun style value => told_of_concluded ⟨style, none⟩
    (Operation.list bucket keyPrefix).complaint value
  simp only [run]
  constructor
  case work =>
    intro one other
    obtain ⟨deeds, left, value⟩ := same one other
    refine ⟨?_, left, ?_⟩
    · simp only [Event.deeds_append, deeds, (told _ _).1]
    · -- The status does not depend on the style.
      simp only [value]
      rcases (listed store ⟨other, none⟩ fuel state bucket keyPrefix).value with
        _ | error | count <;> rfl
  -- A quiet listing is written nowhere.
  case hushed =>
    intro style
    dsimp only
    rw [Event.standardOutput_append, (told _ _).2, String.append_empty]
    exact standardOutput_nowhere store style.json fuel _ 0 state
  case errors =>
    -- Writing a listing reports nothing, and its result is the same.
    have silent : ∀ style : Style, Event.standardError
        (listed store ⟨style, none⟩ fuel state bucket keyPrefix).events = "" := by
      intro style
      have serving := (offered_listed store ⟨style, none⟩ fuel state bucket keyPrefix).serving
      rw [Event.standardError_eq, Event.reports_eq_nil serving]
      rfl
    intro style quiet
    simp only [Event.standardError_append, silent, (same { style with quiet } style).value]
    rcases (listed store ⟨style, none⟩ fuel state bucket keyPrefix).value with
      _ | error | count <;> rfl
  case output =>
    intro style noColor
    -- Lines of a listing have no colors in the first place.
    simp only [Event.standardOutput_append, (told _ _).2]
    rfl

end List

/-- Every command depends on the style only in what it tells. -/
theorem presented_perform (operation : Operation) :
    Presented fun style => (perform store ⟨style, none⟩ fuel operation).run state := by
  -- Two of the commands are single calls, and the third writes a listing.
  cases operation with
  | put source target =>
    simp only [perform_put]
    exact presented_single store state _ _ _
  | list bucket keyPrefix => exact presented_list store fuel state bucket keyPrefix
  | remove target =>
    simp only [perform_remove]
    exact presented_single store state _ _ _

end Perform

section Execute

variable {σ α : Type} {run : Style → Outcome Event σ α}

/-- What depends on the style only in what it tells does so behind any deeds. -/
theorem Presented.after (presented : Presented run) (events : List Event)
    (silent : Event.standardOutput events = "") :
    Presented fun style => (run style).after events where
  -- What stands in front is the same in all styles, so it is taken off on both sides.
  work one other := (presented.work one other).after rfl
  hushed style := by
    rw [Outcome.after, Event.standardOutput_append, silent, presented.hushed, String.append_empty]
  errors style quiet := by
    simp only [Outcome.after, Event.standardError_append, presented.errors]
  output style noColor := by
    simp only [Outcome.after, Event.standardOutput_append, presented.output]

/-- What depends on the style only in what it tells does so where there is no color. -/
theorem Presented.colorless (presented : Presented run) (plain : Bool) :
    Presented fun style => run { style with noColor := style.noColor || plain } where
  -- Switching colors off is a change of style, and the law holds for every style.
  work _ _ := presented.work _ _
  hushed style := presented.hushed { style with noColor := style.noColor || plain }
  errors style quiet := presented.errors { style with noColor := style.noColor || plain } quiet
  output style noColor :=
    (presented.output style (noColor || plain)).trans
      (presented.output style (style.noColor || plain)).symm

/-- What only reports depends on the style only in what it tells. -/
theorem presented_reported (events : List Event) (silent : Event.standardOutput events = "")
    (value : α) (state : σ) (message : String) :
    Presented fun style => (⟨value, state, events ++ [.reported (style.errorLine message)]⟩ :
      Outcome Event σ α) where
  -- The report is the only event that depends on the style, and it only tells.
  work one other := by
    refine ⟨?_, rfl, rfl⟩
    rw [Event.deeds_append, Event.deeds_append]
    rfl
  hushed style := by
    rw [Event.standardOutput_append, silent]
    rfl
  errors style quiet := rfl
  output style noColor := by
    rw [Event.standardOutput_append, Event.standardOutput_append]
    rfl

end Execute

/-- The flags for the presentation change nothing about what is done: not in a command, and not in a
whole run of the program with its set-up. -/
theorem presentation_changes_no_work {σ : Type} (store : Store σ) (operation : Operation)
    (fuel : Nat) (state : σ) :
    (Presented fun style => (perform store ⟨style, none⟩ fuel operation).run state) ∧
    ∀ (outside : Surroundings σ) (debug : Bool), Presented fun style =>
      (execute { outside with room := none } fuel
        ⟨⟨style.json, style.noColor, style.quiet, debug⟩, .operation operation⟩).run state := by
  -- A stage of the set-up that fails ends with a report; otherwise the command follows.
  refine ⟨presented_perform store fuel state operation, fun outside debug => ?_⟩
  cases loaded : outside.settings with
  -- Without settings the error is reported, and the style decides only how.
  | error error =>
    simp only [execute]
    exact (presented_reported [.loaded (.error error)] rfl _ state error.message).colorless
      (!outside.errorTerminal)
  | ok connection =>
    cases connected : outside.connect connection with
    | error error =>
      simp only [execute, connected]
      exact (presented_reported [.loaded (.ok connection), .connected connection (some error)] rfl _
        state ("Failed to create S3 client: " ++ error.message)).colorless (!outside.errorTerminal)
    -- Both stages go well, and their events are no output.
    | ok store =>
      simp only [execute, connected]
      exact ((presented_perform store fuel state operation).after
        [.loaded (.ok connection), .connected connection none] rfl).colorless
        (!outside.errorTerminal)

end ObjectStorage
