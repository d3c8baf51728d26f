import RegisterMachine.Proofs.Report.Execute
import RegisterMachine.Proofs.Run.Sights
import RegisterMachine.Proofs.Trace.Console

/-!
# Views of the events

A machine reports one sequence of events, and every sink keeps its own view of it: a recorder the
events themselves, a verbose trace an entry for each of them, a quiet trace the essential ones of
these entries, and a console a line for each of them on one of two streams.  No sink changes what the
machine does.
-/

namespace RegisterMachine

namespace Trace

/-! ## Lines -/

/-- The lines tell of the events one by one, and a stream that shows them has no other lines. -/
structure Told
    (line : Event → String → Prop) (events : List Event)
    (lines : List String) : Prop where
  one_by_one : List.Forall₂ line events lines
  lines_stream : Text.lines (stream lines) = lines.map String.toList

theorem told_filterMap
    {line : Event → String → Prop} {line? : Event → Option String}
    (sound : ∀ {event text}, line? event = some text → line event text)
    (closed :
      ∀ {event text}, line? event = some text → Text.Closed text.toList)
    (events : List Event) :
    Told line (events.filter fun event => (line? event).isSome)
      (events.filterMap line?) where
  one_by_one := by
    induction events with
    | nil => exact .nil
    | cons event events inductionHypothesis =>
        cases told : line? event with
        | none =>
            rw [List.filterMap_cons_none told, List.filter_cons_of_neg]
            · exact inductionHypothesis
            · rw [told]
              exact Bool.false_ne_true
        | some text =>
            rw [List.filterMap_cons_some told, List.filter_cons_of_pos]
            · exact .cons (sound told) inductionHypothesis
            · rw [told]
              rfl
  lines_stream := by
    apply Trace.lines_stream
    intro text member
    obtain ⟨event, -, told⟩ := List.mem_filterMap.mp member
    exact closed told

theorem isSome_outputLine :
    (fun event => (outputLine? event).isSome) =
      fun event => event.fault?.isNone := by
  funext event
  cases event <;> rfl

theorem isSome_errorLine :
    (fun event => (errorLine? event).isSome) =
      fun event => event.fault?.isSome := by
  funext event
  cases event <;> rfl

end Trace

open Trace

/-- The report without the entries that only a verbose trace has. -/
def Report.quieted (report : Report) : Report :=
  { report with trace := report.trace.filter Entry.isEssential }

namespace Machine

variable {machine result : Machine} {operations : List Operation}

/-! ## Views -/

/-- What the sinks keep of the events that some operations report: the entries of a trace, and the
lines on the two streams of a console. -/
structure Views
    (machine : Machine) (operations : List Operation) (result : Machine)
    (events : List Event) (entries : List Entry)
    (output errors : List String) : Prop where
  heard :
    ∃ sights : List Sight,
      machine.seen operations = sights.map some ∧
        sights.flatMap Sight.heard = events
  silent :
    (machine.setSink .silent).perform operations =
      some (result.setSink .silent)
  record :
    ∀ earlier,
      (machine.setSink (.record earlier)).perform operations =
        some (result.setSink (.record (earlier ++ events.toArray)))
  entered : List.Forall₂ Enters events entries
  verbose :
    ∀ earlier,
      (machine.setSink (.trace true earlier)).perform operations =
        some (result.setSink (.trace true (earlier ++ entries.toArray)))
  /-- The quiet trace has the essential ones of the entries that the verbose one has. -/
  quiet :
    ∀ earlier,
      (machine.setSink (.trace false earlier)).perform operations =
        some
          (result.setSink
            (.trace false
              (earlier ++ (entries.filter Entry.isEssential).toArray)))
  told_output :
    Told OutputLine (events.filter fun event => event.fault?.isNone) output
  told_errors :
    Told ErrorLine (events.filter fun event => event.fault?.isSome) errors
  console :
    ∀ earlierOutput earlierErrors,
      (machine.setSink (.console earlierOutput earlierErrors)).perform
          operations =
        some
          (result.setSink
            (.console (earlierOutput ++ output.toArray)
              (earlierErrors ++ errors.toArray)))

theorem views_of_receiveAll
    {events : List Event}
    (heard :
      ∃ sights : List Sight,
        machine.seen operations = sights.map some ∧
          sights.flatMap Sight.heard = events)
    (installed :
      ∀ sink,
        (machine.setSink sink).perform operations =
          some (result.setSink (sink.receiveAll events))) :
    machine.Views operations result events (events.map Entry.ofEvent)
      (events.filterMap outputLine?) (events.filterMap errorLine?) where
  heard := heard
  silent := by rw [installed, Sink.receiveAll_silent]
  record earlier := by rw [installed, Sink.receiveAll_record]
  entered := forall₂_enters events
  verbose earlier := by rw [installed, Sink.receiveAll_verbose]
  quiet earlier := by rw [installed, Sink.receiveAll_quiet]
  told_output := by
    rw [← isSome_outputLine]
    exact told_filterMap outputLine_of_eq_some closed_of_outputLine events
  told_errors := by
    rw [← isSome_errorLine]
    exact told_filterMap errorLine_of_eq_some closed_of_errorLine events
  console earlierOutput earlierErrors := by
    rw [installed, Sink.receiveAll_console]

theorem exists_views
    (keep : ∀ operation ∈ operations, operation.keepsSink = true)
    (performed : machine.perform operations = some result) :
    ∃ events entries output errors,
      machine.Views operations result events entries output errors := by
  obtain ⟨sights, seen_eq, same⟩ := exists_sights_perform keep performed
  refine
    ⟨sights.flatMap Sight.heard, _, _, _,
      views_of_receiveAll ⟨sights, seen_eq, rfl⟩ ?_⟩
  intro sink
  -- The machine in its own surroundings shows that the result has the same capacity.
  have unchanged := same machine.capacity machine.sink
  have sameResult := Option.some.inj (performed.symm.trans unchanged)
  have capacity_eq : result.capacity = machine.capacity :=
    (congrArg Machine.capacity sameResult).trans rfl
  rw [setSink_eq_fitted result, capacity_eq]
  exact same machine.capacity sink

/-- A sink that is installed between operations keeps its view of what is heard from then on. -/
theorem exists_views_of_setSink
    {before after : List Operation} {sink : Sink}
    (keep : ∀ operation ∈ after, operation.keepsSink = true)
    (performed :
      machine.perform (before ++ .setSink sink :: after) = some result) :
    ∃ middle events entries output errors,
      machine.perform before = some middle ∧
        machine.seen (before ++ .setSink sink :: after) =
          machine.seen before ++ (middle.setSink sink).seen after ∧
        (middle.setSink sink).Views after result events entries output
          errors := by
  rw [perform_append] at performed
  obtain ⟨middle, first, rest⟩ := Option.bind_eq_some_iff.mp performed
  have performedRest : (middle.setSink sink).perform after = some result := rest
  obtain ⟨events, entries, output, errors, views⟩ :=
    exists_views keep performedRest
  exact
    ⟨middle, events, entries, output, errors, first, seen_append first _,
      views⟩

/-! ## Reports -/

theorem exists_events_runWithin
    (maxSteps : Option Nat) (machine : Machine) :
    ∃ events, ∀ capacity sink,
      (machine.fitted capacity sink).runWithin maxSteps =
        (machine.runWithin maxSteps).map fun run =>
          (run.1.fitted capacity (sink.receiveAll events), run.2) := by
  cases maxSteps with
  | some limit =>
      obtain ⟨events, limited⟩ := exists_events_runLimit limit machine
      refine ⟨events, ?_⟩
      intro capacity sink
      exact congrArg some (limited capacity sink)
  | none =>
      obtain ⟨events, ran⟩ :=
        exists_events_runRounds (machine.stateBits + 1) 1 machine
      refine ⟨events, ?_⟩
      intro capacity sink
      have run_eq :
          (machine.fitted capacity sink).run =
            machine.run.map fun final =>
              final.fitted capacity (sink.receiveAll events) :=
        ran capacity sink
      rw [runWithin, runWithin, run_eq, Option.map_map, Option.map_map]
      rfl

theorem capture_quiet
    (name : String) (final : Machine) (capacity : Nat) (events : List Event)
    (outcome : RunOutcome) (watch : List Word) :
    Report.capture name
        (final.fitted capacity ((Sink.trace false #[]).receiveAll events))
        outcome watch =
      (Report.capture name
        (final.fitted capacity ((Sink.trace true #[]).receiveAll events))
        outcome watch).quieted := by
  have faults :=
    (Sink.countP_isFault_receiveAll false #[] events).trans
      (Sink.countP_isFault_receiveAll true #[] events).symm
  have entries :
      ((Sink.trace false #[]).receiveAll events).entries =
        ((Sink.trace true #[]).receiveAll events).entries.filter
          Entry.isEssential := by
    rw [Sink.receiveAll_quiet, Sink.receiveAll_verbose, Sink.entries,
      Sink.entries, Array.empty_append, Array.empty_append]
  unfold Report.quieted Report.capture
  rw [Report.mk.injEq]
  exact ⟨rfl, rfl, rfl, rfl, rfl, rfl, rfl, faults, entries⟩

/-- A run is reported alike with a quiet and with a verbose trace, but for the entries that only the
verbose one has. -/
theorem execute_quiet
    (machine : Machine) (maxSteps : Option Nat) (name : String)
    (program : Program) (watch : List Word) :
    (machine.execute ⟨maxSteps, false⟩ name program watch).map Prod.snd =
      (machine.execute ⟨maxSteps, true⟩ name program watch).map fun run =>
        run.2.quieted := by
  obtain ⟨events, ran⟩ :=
    exists_events_runWithin maxSteps (machine.load program)
  have run_eq (verbose : Bool) :
      ((machine.setSink (.trace verbose #[])).load program).runWithin
          maxSteps =
        ((machine.load program).runWithin maxSteps).map fun run =>
          (run.1.fitted machine.capacity
              ((Sink.trace verbose #[]).receiveAll events),
            run.2) :=
    ran machine.capacity (.trace verbose #[])
  rw [execute, execute, run_eq, run_eq, Option.map_map, Option.map_map,
    Option.map_map, Option.map_map]
  congr 1
  funext run
  exact capture_quiet name run.1 machine.capacity events run.2 watch

/-! ## Sinks only listen -/

/-- What a machine does is the same for all sinks, and all sinks keep views of the same events. -/
structure OnlyHeard (machine : Machine) : Prop where
  /-- The sinks may be changed before and between the operations. -/
  seen :
    ∀ sink operations others,
      others.filter Operation.keepsSink =
          operations.filter Operation.keepsSink →
        (machine.setSink sink).seen others = machine.seen operations
  views :
    ∀ operations result,
      (∀ operation ∈ operations, operation.keepsSink = true) →
        machine.perform operations = some result →
          ∃ events entries output errors,
            machine.Views operations result events entries output errors
  /-- A sink that is installed later keeps its view of the events from then on. -/
  swapped :
    ∀ before sink after result,
      (∀ operation ∈ after, operation.keepsSink = true) →
        machine.perform (before ++ .setSink sink :: after) = some result →
          ∃ middle events entries output errors,
            machine.perform before = some middle ∧
              machine.seen (before ++ .setSink sink :: after) =
                machine.seen before ++ (middle.setSink sink).seen after ∧
              (middle.setSink sink).Views after result events entries output
                errors
  report :
    ∀ maxSteps name program watch,
      (machine.execute ⟨maxSteps, false⟩ name program watch).map Prod.snd =
        (machine.execute ⟨maxSteps, true⟩ name program watch).map fun run =>
          run.2.quieted
  faults :
    ∀ maxSteps name program watch,
      (machine.execute ⟨maxSteps, false⟩ name program watch).map
          (fun run => run.2.faults) =
        (machine.execute ⟨maxSteps, true⟩ name program watch).map
          fun run => run.2.faults

theorem onlyHeard (machine : Machine) : machine.OnlyHeard where
  seen sink operations others same := by
    rw [← seen_filter others, same, seen_filter, setSink_eq_fitted,
      seen_fitted]
  views _ _ := exists_views
  swapped _ _ _ _ := exists_views_of_setSink
  report := execute_quiet machine
  faults maxSteps name program watch := by
    have reports := execute_quiet machine maxSteps name program watch
    have faults := congrArg (Option.map Report.faults) reports
    rwa [Option.map_map, Option.map_map] at faults

/-- A division by zero, a jump and the end of a program, and what each sink has of them. -/
theorem onlyHeard_threeInstructions :
    let machine := create 4 1 .silent
    let division := Instruction.div 0 1 2
    let operations : List Operation :=
      [.load #[division, Instruction.jmp 2, Instruction.halt], .run]
    let kept (sink : Sink) :=
      ((machine.setSink sink).perform operations).map Machine.sink
    (machine.perform operations).isSome ∧
      kept .silent = some .silent ∧
      kept (.record #[]) =
        some
          (.record
            #[.instruction 0 division, .fault 0 division .divisionByZero,
              .instruction 1 (Instruction.jmp 2), .jump 1 2,
              .instruction 2 Instruction.halt, .halt 2]) ∧
      kept (.trace true #[]) =
        some
          (.trace true
            #[.instruction 0 "div   r0, r1, r2",
              .fault 0 "div   r0, r1, r2" "division by zero",
              .instruction 1 "jmp   2", .jump 1 2,
              .instruction 2 "halt", .halt 2]) ∧
      kept (.trace false #[]) =
        some
          (.trace false
            #[.fault 0 "div   r0, r1, r2" "division by zero", .halt 2]) ∧
      kept (.console #[] #[]) =
        some
          (.console
            #["PC = 0x00000000, Instr = div   r0, r1, r2",
              "PC = 0x00000001, Instr = jmp   2",
              "Jumping from 0x00000001 to 0x00000002",
              "PC = 0x00000002, Instr = halt", "HALT at PC = 0x00000002"]
            #["🚨 division by zero at PC = 0x00000000 (div   r0, r1, r2)"]) := by
  intro machine division operations kept
  have ended : (machine.perform operations).isSome = true := by decide
  obtain ⟨result, performed⟩ := Option.isSome_iff_exists.mp ended
  have keep :
      ∀ operation ∈ operations, operation.keepsSink = true := by decide
  obtain ⟨events, entries, output, errors, views⟩ :=
    (onlyHeard machine).views operations result keep performed
  have kept_of_perform
      {sink final : Sink}
      (left :
        (machine.setSink sink).perform operations =
          some (result.setSink final)) :
      kept sink = some final :=
    congrArg (Option.map Machine.sink) left
  have recorded :
      kept (.record #[]) =
        some
          (.record
            #[.instruction 0 division, .fault 0 division .divisionByZero,
              .instruction 1 (Instruction.jmp 2), .jump 1 2,
              .instruction 2 Instruction.halt, .halt 2]) := by
    decide
  have events_eq := (kept_of_perform (views.record #[])).symm.trans recorded
  rw [Array.empty_append, Option.some_inj, Sink.record.injEq,
    List.toArray_eq_iff] at events_eq
  subst events_eq
  -- What is kept of each event follows from what the views say of its kind.
  have entered := views.entered
  rcases entered with
    _ | ⟨⟨⟩, _ | ⟨⟨⟩, _ | ⟨⟨⟩, _ | ⟨⟨⟩, _ | ⟨⟨⟩, _ | ⟨⟨⟩, ⟨⟩⟩⟩⟩⟩⟩⟩
  have output_told :
      List.Forall₂ OutputLine
        [.instruction 0 division, .instruction 1 (Instruction.jmp 2),
          .jump 1 2, .instruction 2 Instruction.halt, .halt 2] output :=
    views.told_output.one_by_one
  rcases output_told with
    _ | ⟨⟨⟩, _ | ⟨⟨⟩, _ | ⟨⟨⟩, _ | ⟨⟨⟩, _ | ⟨⟨⟩, ⟨⟩⟩⟩⟩⟩⟩
  have errors_told :
      List.Forall₂ ErrorLine [.fault 0 division .divisionByZero] errors :=
    views.told_errors.one_by_one
  rcases errors_told with _ | ⟨⟨⟩, ⟨⟩⟩
  refine ⟨ended, kept_of_perform views.silent, recorded, ?_, ?_, ?_⟩
  · exact kept_of_perform (views.verbose #[])
  · exact kept_of_perform (views.quiet #[])
  · exact kept_of_perform (views.console #[] #[])

end Machine

end RegisterMachine
