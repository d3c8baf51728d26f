import RegisterMachine.Machine.Dump
import RegisterMachine.Proofs.Run.Calls

/-!
# What can be seen of a machine

A machine is seen through what its operations return and report, and through what it tells when it
is asked.  None of this depends on the sink that listens or on the announced size of the program
store, and a change of the sink is not seen.
-/

namespace RegisterMachine

open Trace Sink

/-! ## Sights -/

/-- What an operation returns. -/
inductive Answer where
  | nothing
  | continues (answer : Bool)
  | outcome (answer : RunOutcome)
  deriving DecidableEq

/-- What is seen of an operation: what it returned and reported, and all that the machine then tells
when it is asked, but for its capacity. -/
structure Sight where
  answer : Answer
  heard : List Event
  program : Program
  state : State
  status : Status
  cells : Word → Word
  registersDump : String
  memoryDump : Nat → Nat → Option String

namespace Operation

/-- The operation leaves the sink that is installed. -/
def keepsSink : Operation → Bool
  | .setSink _ => false
  | _ => true

def answer (machine : Machine) : Operation → Answer
  | .step => .continues machine.step.2
  | .runLimit limit => .outcome (machine.runLimit limit).2
  | _ => .nothing

/-- The events that an operation reports, as a sink that keeps them hears them. -/
def heard (machine : Machine) (operation : Operation) : List Event :=
  ((operation.apply (machine.setSink (.record #[]))).map
    fun result => result.sink.recorded).getD []

def sights (machine result : Machine) (operation : Operation) : List Sight :=
  if operation.keepsSink then
    [{ answer := operation.answer machine
       heard := operation.heard machine
       program := result.program
       state := result.state
       status := result.status
       cells := result.getCell
       registersDump := result.dumpRegisters
       memoryDump := result.dumpMemory }]
  else []

end Operation

namespace Machine

/-- What is seen of some operations, in order.  A run that never ends is the last of them, and shows
nothing. -/
def seen : List Operation → Machine → List (Option Sight)
  | [], _ => []
  | operation :: operations, machine =>
    match operation.apply machine with
    | none => [none]
    | some result =>
      (operation.sights machine result).map some ++ seen operations result

/-! ## Operations one after the other -/

theorem perform_append
    (before after : List Operation) (machine : Machine) :
    machine.perform (before ++ after) =
      (machine.perform before).bind (perform after) := by
  induction before generalizing machine with
  | nil => rfl
  | cons operation before inductionHypothesis =>
      rw [List.cons_append, perform, perform, Option.bind_assoc]
      congr 1
      funext result
      exact inductionHypothesis result

theorem seen_append
    {machine middle : Machine} {before : List Operation}
    (performed : machine.perform before = some middle)
    (after : List Operation) :
    machine.seen (before ++ after) =
      machine.seen before ++ middle.seen after := by
  induction before generalizing machine with
  | nil =>
      cases performed
      rfl
  | cons operation before inductionHypothesis =>
      obtain ⟨result, applied, rest⟩ := Option.bind_eq_some_iff.mp performed
      rw [List.cons_append, seen, seen, applied]
      dsimp only
      rw [inductionHypothesis rest, List.append_assoc]

/-! ## Other surroundings -/

/-- The machine with another capacity and another sink. -/
def fitted (machine : Machine) (capacity : Nat) (sink : Sink) : Machine :=
  { machine with capacity, sink }

variable {machine left right : Machine} {operation : Operation}
variable {operations others : List Operation}

theorem eq_fitted
    (sameProgram : left.program = right.program)
    (sameState : left.state = right.state) :
    left = right.fitted left.capacity left.sink := by
  cases left
  cases right
  cases sameProgram
  cases sameState
  rfl

theorem setSink_eq_fitted (machine : Machine) (sink : Sink) :
    machine.setSink sink = machine.fitted machine.capacity sink :=
  rfl

theorem step_fitted
    (machine : Machine) (capacity : Nat) (sink : Sink) :
    (machine.fitted capacity sink).step =
      (machine.step.1.fitted capacity
          (sink.receiveAll (machine.state.step machine.program).events),
        machine.step.2) :=
  rfl

/-- A bounded run takes the same course in all surroundings, and every sink hears the same of it. -/
theorem exists_events_runLimit (limit : Nat) (machine : Machine) :
    ∃ events, ∀ capacity sink,
      (machine.fitted capacity sink).runLimit limit =
        ((machine.runLimit limit).1.fitted capacity
            (sink.receiveAll events),
          (machine.runLimit limit).2) := by
  induction limit generalizing machine with
  | zero =>
      refine ⟨[], ?_⟩
      intro capacity sink
      have status : (machine.fitted capacity sink).status = machine.status :=
        rfl
      rw [runLimit, runLimit, status]
      cases machine.status <;> rfl
  | succ limit inductionHypothesis =>
      obtain ⟨events, rest⟩ := inductionHypothesis machine.step.1
      let first := (machine.state.step machine.program).events
      cases more : machine.step.2 with
      | false =>
          refine ⟨first, ?_⟩
          intro capacity sink
          rw [runLimit_succ, runLimit_succ, step_fitted, more]
          rfl
      | true =>
          refine ⟨first ++ events, ?_⟩
          intro capacity sink
          rw [runLimit_succ, runLimit_succ, step_fitted, more]
          dsimp only
          rw [if_pos rfl, if_pos rfl, rest, Sink.receiveAll_append]

theorem exists_events_runRounds (rounds limit : Nat) (machine : Machine) :
    ∃ events, ∀ capacity sink,
      runRounds rounds limit (machine.fitted capacity sink) =
        (runRounds rounds limit machine).map fun final =>
          final.fitted capacity (sink.receiveAll events) := by
  induction rounds generalizing limit machine with
  | zero => exact ⟨[], fun _ _ => rfl⟩
  | succ rounds inductionHypothesis =>
      obtain ⟨first, limited⟩ := exists_events_runLimit limit machine
      generalize ran : machine.runLimit limit = run at limited
      obtain ⟨middle, outcome⟩ := run
      cases outcome with
      | halted =>
          refine ⟨first, ?_⟩
          intro capacity sink
          rw [runRounds, runRounds, limited, ran]
          rfl
      | stepLimit =>
          obtain ⟨later, rest⟩ := inductionHypothesis (2 * limit) middle
          refine ⟨first ++ later, ?_⟩
          intro capacity sink
          rw [runRounds, runRounds, limited, ran, Sink.receiveAll_append]
          exact rest capacity (sink.receiveAll first)

/-- An operation that leaves the sink does the same in all surroundings, and every sink hears the
same of it. -/
theorem exists_events_apply
    (keeps : operation.keepsSink = true) (machine : Machine) :
    ∃ events, ∀ capacity sink,
      operation.apply (machine.fitted capacity sink) =
        (operation.apply machine).map fun result =>
          result.fitted capacity (sink.receiveAll events) := by
  cases operation with
  | load program => exact ⟨[], fun _ _ => rfl⟩
  | reset => exact ⟨[], fun _ _ => rfl⟩
  | step => exact ⟨(machine.state.step machine.program).events, fun _ _ => rfl⟩
  | runLimit limit =>
      obtain ⟨events, limited⟩ := exists_events_runLimit limit machine
      refine ⟨events, ?_⟩
      intro capacity sink
      exact congrArg (fun run => some run.1) (limited capacity sink)
  | run => exact exists_events_runRounds (machine.stateBits + 1) 1 machine
  | setCell address value => exact ⟨[], fun _ _ => rfl⟩
  | setSink sink => cases keeps

/-! ## What is seen in other surroundings -/

theorem answer_fitted
    (machine : Machine) (operation : Operation) (capacity : Nat)
    (sink : Sink) :
    operation.answer (machine.fitted capacity sink) =
      operation.answer machine := by
  cases operation with
  | runLimit limit =>
      obtain ⟨events, limited⟩ := exists_events_runLimit limit machine
      exact congrArg (fun run => Answer.outcome run.2) (limited capacity sink)
  | _ => rfl

theorem heard_fitted
    (machine : Machine) (operation : Operation) (capacity : Nat)
    (sink : Sink) :
    operation.heard (machine.fitted capacity sink) =
      operation.heard machine := by
  by_cases keeps : operation.keepsSink = true
  · obtain ⟨events, applied⟩ := exists_events_apply keeps machine
    change
      ((operation.apply (machine.fitted capacity (.record #[]))).map
          fun result => result.sink.recorded).getD [] =
        ((operation.apply (machine.fitted machine.capacity (.record #[]))).map
          fun result => result.sink.recorded).getD []
    rw [applied, applied, Option.map_map, Option.map_map]
    rfl
  · cases operation with
    | setSink sink => rfl
    | _ => exact absurd rfl keeps

theorem apply_fitted
    {result : Machine} (keeps : operation.keepsSink = true)
    (applied : operation.apply machine = some result)
    (capacity : Nat) (sink : Sink) :
    operation.apply (machine.fitted capacity sink) =
      some
        (result.fitted capacity
          (sink.receiveAll (operation.heard machine))) := by
  obtain ⟨events, same⟩ := exists_events_apply keeps machine
  have heard_eq : operation.heard machine = events := by
    rw [Operation.heard, setSink_eq_fitted, same, applied]
    exact recorded_receiveAll_record #[] events
  rw [heard_eq, same, applied]
  rfl

/-- What any sink hears of some operations is what is heard of each of them, in order. -/
theorem exists_sights_perform
    {result : Machine}
    (keep : ∀ operation ∈ operations, operation.keepsSink = true)
    (performed : machine.perform operations = some result) :
    ∃ sights : List Sight,
      machine.seen operations = sights.map some ∧
        ∀ capacity sink,
          (machine.fitted capacity sink).perform operations =
            some
              (result.fitted capacity
                (sink.receiveAll (sights.flatMap Sight.heard))) := by
  induction operations generalizing machine with
  | nil =>
      cases performed
      exact ⟨[], rfl, fun _ _ => rfl⟩
  | cons operation operations inductionHypothesis =>
      obtain ⟨keepsFirst, keepRest⟩ := List.forall_mem_cons.mp keep
      obtain ⟨middle, applied, rest⟩ := Option.bind_eq_some_iff.mp performed
      obtain ⟨sights, seen_eq, same⟩ := inductionHypothesis keepRest rest
      have first :
          (operation.sights machine middle).flatMap Sight.heard =
            operation.heard machine := by
        rw [Operation.sights, if_pos keepsFirst]
        exact List.append_nil _
      refine ⟨operation.sights machine middle ++ sights, ?_, ?_⟩
      · rw [seen, applied, List.map_append, ← seen_eq]
      · intro capacity sink
        rw [perform, apply_fitted keepsFirst applied, List.flatMap_append,
          first, Sink.receiveAll_append]
        exact same capacity (sink.receiveAll (operation.heard machine))

theorem sights_fitted
    (machine result : Machine) (operation : Operation)
    (capacity : Nat) (sink later : Sink) :
    operation.sights (machine.fitted capacity sink)
        (result.fitted capacity later) =
      operation.sights machine result := by
  rw [Operation.sights, answer_fitted, heard_fitted]
  rfl

/-- Nothing that is seen of a machine depends on its capacity or its sink. -/
theorem seen_fitted
    (operations : List Operation) (machine : Machine) (capacity : Nat)
    (sink : Sink) :
    (machine.fitted capacity sink).seen operations =
      machine.seen operations := by
  induction operations generalizing machine capacity sink with
  | nil => rfl
  | cons operation operations inductionHypothesis =>
      by_cases keeps : operation.keepsSink = true
      · obtain ⟨events, applied⟩ := exists_events_apply keeps machine
        rw [seen, seen, applied]
        cases operation.apply machine with
        | none => rfl
        | some result =>
            change
              (operation.sights (machine.fitted capacity sink)
                      (result.fitted capacity (sink.receiveAll events))).map
                    some ++
                  (result.fitted capacity (sink.receiveAll events)).seen
                    operations =
                (operation.sights machine result).map some ++
                  result.seen operations
            rw [sights_fitted, inductionHypothesis result]
      · cases operation with
        | setSink other =>
            have there := inductionHypothesis machine capacity other
            have here := inductionHypothesis machine machine.capacity other
            exact there.trans here.symm
        | _ => exact absurd rfl keeps

/-- A change of the sink is not seen. -/
theorem seen_filter (operations : List Operation) (machine : Machine) :
    machine.seen (operations.filter Operation.keepsSink) =
      machine.seen operations := by
  induction operations generalizing machine with
  | nil => rfl
  | cons operation operations inductionHypothesis =>
      by_cases keeps : operation.keepsSink = true
      · rw [List.filter_cons_of_pos keeps, seen, seen]
        cases operation.apply machine with
        | none => rfl
        | some result =>
            exact
              congrArg ((operation.sights machine result).map some ++ ·)
                (inductionHypothesis result)
      · rw [List.filter_cons_of_neg keeps, inductionHypothesis]
        cases operation with
        | setSink sink =>
            exact (seen_fitted operations machine machine.capacity sink).symm
        | _ => exact absurd rfl keeps

end Machine

end RegisterMachine
