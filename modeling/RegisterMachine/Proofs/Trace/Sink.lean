import Mathlib.Data.List.Forall2
import RegisterMachine.Trace.Sink

/-!
# What sinks keep

Every sink keeps the events that it receives in a form of its own, behind what it has kept before.
-/

namespace RegisterMachine.Trace

/-! ## Entries -/

/-- The entry of an event names the same addresses, and puts its instruction and its fault into
words. -/
inductive Enters : Event → Entry → Prop
  | instruction (counter : Word) (instruction : Instruction) :
      Enters (.instruction counter instruction)
        (.instruction counter instruction.text)
  | jump (source target : Word) :
      Enters (.jump source target) (.jump source target)
  | fault (counter : Word) (instruction : Instruction) (reason : Fault) :
      Enters (.fault counter instruction reason)
        (.fault counter instruction.text reason.message)
  | halt (counter : Word) : Enters (.halt counter) (.halt counter)

theorem enters_ofEvent (event : Event) : Enters event (.ofEvent event) := by
  cases event with
  | instruction counter instruction => exact .instruction counter instruction
  | jump source target => exact .jump source target
  | fault counter instruction reason =>
      exact .fault counter instruction reason
  | halt counter => exact .halt counter

theorem forall₂_enters (events : List Event) :
    List.Forall₂ Enters events (events.map Entry.ofEvent) :=
  List.forall₂_map_right_iff.mpr
    (List.forall₂_same.mpr fun event _ => enters_ofEvent event)

/-- Whether an entry belongs into every trace. -/
def Entry.isEssential : Entry → Bool
  | .fault .. => true
  | .halt _ => true
  | _ => false

theorem Entry.filter_isEssential_map (events : List Event) :
    (events.map ofEvent).filter isEssential =
      (events.filter Event.isEssential).map ofEvent := by
  rw [List.filter_map]
  congr 2
  funext event
  cases event <;> rfl

/-! ## What each sink keeps -/

namespace Sink

theorem receiveAll_append
    (sink : Sink) (earlier later : List Event) :
    sink.receiveAll (earlier ++ later) =
      (sink.receiveAll earlier).receiveAll later :=
  List.foldl_append

theorem receiveAll_silent (events : List Event) :
    silent.receiveAll events = silent := by
  induction events with
  | nil => rfl
  | cons event events inductionHypothesis => exact inductionHypothesis

theorem receiveAll_record (earlier : Array Event) (events : List Event) :
    (record earlier).receiveAll events =
      record (earlier ++ events.toArray) := by
  induction events generalizing earlier with
  | nil => simp [receiveAll]
  | cons event events inductionHypothesis =>
      change (record (earlier.push event)).receiveAll events = _
      rw [inductionHypothesis]
      simp

theorem receiveAll_trace
    (verbose : Bool) (earlier : Array Entry) (events : List Event) :
    (trace verbose earlier).receiveAll events =
      trace verbose
        (earlier ++
          ((events.filter fun event => verbose || event.isEssential).map
            Entry.ofEvent).toArray) := by
  induction events generalizing earlier with
  | nil => simp [receiveAll]
  | cons event events inductionHypothesis =>
      change ((trace verbose earlier).receive event).receiveAll events = _
      rw [receive, inductionHypothesis, List.filter_cons]
      split
      · simp
      · rfl

theorem receiveAll_verbose (earlier : Array Entry) (events : List Event) :
    (trace true earlier).receiveAll events =
      trace true (earlier ++ (events.map Entry.ofEvent).toArray) := by
  have all :
      (events.filter fun event => true || event.isEssential) = events :=
    List.filter_eq_self.mpr fun _ _ => rfl
  rw [receiveAll_trace, all]

theorem receiveAll_quiet (earlier : Array Entry) (events : List Event) :
    (trace false earlier).receiveAll events =
      trace false
        (earlier ++
          ((events.map Entry.ofEvent).filter Entry.isEssential).toArray) := by
  rw [receiveAll_trace, Entry.filter_isEssential_map]
  rfl

theorem receiveAll_console
    (output errors : Array String) (events : List Event) :
    (console output errors).receiveAll events =
      console (output ++ (events.filterMap outputLine?).toArray)
        (errors ++ (events.filterMap errorLine?).toArray) := by
  induction events generalizing output errors with
  | nil => simp [receiveAll]
  | cons event events inductionHypothesis =>
      change ((console output errors).receive event).receiveAll events = _
      rw [receive, inductionHypothesis]
      cases event <;> simp [outputLine?, errorLine?, List.filterMap_cons]

end Sink

end RegisterMachine.Trace
