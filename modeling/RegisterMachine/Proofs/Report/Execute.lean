import RegisterMachine.Proofs.Run.Contract
import RegisterMachine.Proofs.Run.Limit
import RegisterMachine.Proofs.Run.Locality
import RegisterMachine.Report.Basic

/-!
# Reports on runs

A contract for a program tells what is reported when the program is run to its end.  Without a
contract, and with a limit that may cut the run short, the report is the same for all machines that
are alike on the memory cells that the run accesses.
-/

namespace RegisterMachine

/-! ## Faults in a trace -/

theorem Trace.Sink.countP_isFault_receiveAll
    (verbose : Bool) (kept : Array Entry) (events : List Event) :
    ((trace verbose kept).receiveAll events).entries.countP Entry.isFault =
      kept.toList.countP Entry.isFault +
        (events.filterMap Event.fault?).length := by
  rw [receiveAll_trace, entries, Array.toList_append, List.countP_append,
    List.countP_map, List.countP_filter, List.length_filterMap_eq_countP]
  congr 2
  funext event
  -- What a quiet trace leaves out is no fault.
  cases event with
  | fault => simp [Entry.ofEvent, Entry.isFault, Event.isEssential, Event.fault?]
  | _ => rfl

/-! ## Runs to the end -/

/-- A contract from the start to the end of a program is a report on its run. -/
theorem Leads.execute
    {program : Program} {machine : Machine} {faults : List Fault}
    {total : Nat} {post : Storage → Prop}
    (lead :
      Leads program (State.start machine.memory) faults
        (Word.saturate program.size) total post)
    (fits : program.size < 2 ^ 32)
    (trace : Bool) (name : String) (watch : List Word) :
    ∃ final,
      machine.execute ⟨none, trace⟩ name program watch =
          some (final, Report.capture name final .halted watch) ∧
        (Report.capture name final .halted watch).faults = faults.length ∧
        post final.state.toStorage := by
  obtain ⟨storage, clock, path, holds⟩ := lead
  let loaded := (machine.setSink (.trace trace #[])).load program
  have final_eq :
      (loaded.advance total).state =
        ⟨storage, Word.saturate program.size, clock⟩ :=
    path.after
  have ended :
      (loaded.advance total).state.Ended loaded.program := by
    rw [final_eq]
    change program.size ≤ (Word.saturate program.size).toNat
    rw [Word.toNat_saturate fits]
  have halts : loaded.HaltsAfter total (loaded.advance total) :=
    Machine.haltsAfter_of_runs fits path.runs ended
  refine ⟨loaded.advance total, ?_, ?_, ?_⟩
  · change (loaded.run.map _).map _ = _
    rw [halts.run]
    rfl
  · have counted := Trace.Sink.countP_isFault_receiveAll trace #[]
      ((State.start machine.memory).reports program total)
    rw [path.faults] at counted
    exact counted.trans (Nat.zero_add faults.length)
  · rw [final_eq]
    exact holds

/-! ## Machines that are alike -/

/-- Machines with the same program and sink, in states that are alike on some cells. -/
structure Machine.Alike (cells : Word → Prop) (left right : Machine) : Prop where
  program : left.program = right.program
  sink : left.sink = right.sink
  state : left.state.Alike cells right.state

namespace Machine

variable {cells : Word → Prop} {left right machine : Machine}
variable {maxSteps : Option Nat} {outcome : RunOutcome}

theorem Alike.advance
    (alike : left.Alike cells right)
    (within : left.state.Within left.program cells) (count : Nat) :
    (left.advance count).Alike cells (right.advance count) := by
  have both := alike.state.after within count
  refine ⟨alike.program, ?_, ?_⟩
  · change
      left.sink.receiveAll (left.state.reports left.program count) =
        right.sink.receiveAll (right.state.reports right.program count)
    rw [alike.sink, ← alike.program, both.2]
  · change
      (left.state.after left.program count).Alike cells
        (right.state.after right.program count)
    rw [← alike.program]
    exact both.1

theorem Alike.outcome_eq
    (alike : left.Alike cells right) : left.outcome = right.outcome := by
  unfold Machine.outcome status
  rw [alike.program, alike.state.counter]

theorem exists_advance_of_runWithin
    {final : Machine} (fits : machine.program.size < 2 ^ 32)
    (ran : machine.runWithin maxSteps = some (final, outcome)) :
    ∃ count,
      machine.advance count = final ∧
        outcome = final.outcome ∧
        (maxSteps = none ∨ maxSteps = some count) ∧
        (maxSteps = none → final.state.Ended machine.program) := by
  cases maxSteps with
  | some limit =>
      rw [runWithin, runLimit_eq_advance limit machine fits,
        Option.some_inj, Prod.mk.injEq] at ran
      obtain ⟨rfl, rfl⟩ := ran
      exact ⟨limit, rfl, rfl, Or.inr rfl, nofun⟩
  | none =>
      obtain ⟨halted, halts, pair_eq⟩ := Option.map_eq_some_iff.mp ran
      rw [Prod.mk.injEq] at pair_eq
      obtain ⟨rfl, rfl⟩ := pair_eq
      obtain ⟨count, reached, ended⟩ := exists_advance_of_runRounds fits halts
      have ended' : halted.state.Ended halted.program := by
        rw [← reached] at ended ⊢
        exact ended
      exact
        ⟨count, reached, ((outcome_eq_halted_iff halted).mpr ended').symm,
          Or.inl rfl, fun _ => ended⟩

/-- Machines that are alike on all cells that a run accesses run alike. -/
theorem Alike.runWithin
    {leftFinal : Machine}
    (alike : left.Alike cells right)
    (within : left.state.Within left.program cells)
    (fits : left.program.size < 2 ^ 32)
    (ran : left.runWithin maxSteps = some (leftFinal, outcome)) :
    ∃ rightFinal,
      right.runWithin maxSteps = some (rightFinal, outcome) ∧
        leftFinal.Alike cells rightFinal := by
  have rightFits : right.program.size < 2 ^ 32 := alike.program ▸ fits
  obtain ⟨count, rfl, rfl, limited, ended⟩ :=
    exists_advance_of_runWithin fits ran
  have both := alike.advance within count
  refine ⟨right.advance count, ?_, both⟩
  rcases limited with rfl | rfl
  · have rightEnded :
        (right.advance count).state.Ended right.program := by
      unfold State.Ended
      rw [← alike.program, ← both.state.counter]
      exact ended rfl
    obtain ⟨effective, -, halts⟩ :=
      exists_haltsAfter_of_ended rightFits rightEnded
    have halted : (left.advance count).outcome = .halted :=
      (outcome_eq_halted_iff _).mpr (ended rfl)
    rw [Machine.runWithin, halts.run, halted]
    rfl
  · rw [Machine.runWithin, runLimit_eq_advance count right rightFits,
      both.outcome_eq]

theorem Alike.capture
    {watch : List Word}
    (alike : left.Alike cells right)
    (watched : ∀ address ∈ watch, cells address)
    (name : String) (outcome : RunOutcome) :
    Report.capture name left outcome watch =
      Report.capture name right outcome watch := by
  have seen :
      (watch.map fun address => (address, left.getCell address)) =
        watch.map fun address => (address, right.getCell address) := by
    apply List.map_congr_left
    intro address member
    exact
      congrArg (address, ·)
        (alike.state.storage.memory.get address (watched address member))
  unfold Report.capture
  rw [seen, alike.sink, alike.state.counter, alike.state.steps_eq,
    alike.state.storage.registers, alike.state.storage.flags]

/-- What a run leaves in the cells, and what it reports, is settled by the cells that it accesses.
It changes no other cells. -/
theorem execute_of_within
    {program : Program} {settings : RunSettings} {name : String}
    {watch : List Word} {leftFinal : Machine} {report : Report}
    (alike : left.memory.Alike cells right.memory)
    (within : (State.start left.memory).Within program cells)
    (fits : program.size < 2 ^ 32)
    (watched : ∀ address ∈ watch, cells address)
    (executed :
      left.execute settings name program watch = some (leftFinal, report)) :
    (∃ rightFinal,
      right.execute settings name program watch = some (rightFinal, report) ∧
        leftFinal.memory.Alike cells rightFinal.memory) ∧
      leftFinal.memory.size = left.memory.size ∧
      ∀ address, ¬ cells address →
        leftFinal.memory.get address = left.memory.get address := by
  obtain ⟨⟨final, outcome⟩, ran, pair_eq⟩ := Option.map_eq_some_iff.mp executed
  rw [Prod.mk.injEq] at pair_eq
  obtain ⟨rfl, rfl⟩ := pair_eq
  let listening := Trace.Sink.trace settings.trace #[]
  have loaded :
      ((left.setSink listening).load program).Alike cells
        ((right.setSink listening).load program) :=
    ⟨rfl, rfl, ⟨rfl, rfl, alike⟩, rfl, rfl⟩
  refine ⟨?_, ?_, ?_⟩
  · obtain ⟨rightFinal, rightRan, both⟩ := loaded.runWithin within fits ran
    refine ⟨rightFinal, ?_, both.state.storage.memory⟩
    rw [execute, rightRan, Option.map_some, both.capture watched]
  · obtain ⟨count, rfl, -⟩ := exists_advance_of_runWithin fits ran
    exact State.size_memory_after program count (State.start left.memory)
  · intro address outside
    obtain ⟨count, rfl, -⟩ := exists_advance_of_runWithin fits ran
    exact within.get_memory_after outside count

end Machine

end RegisterMachine
