import RegisterMachine.Proofs.Execution.Fault
import RegisterMachine.Proofs.Run.Halting

/-!
# Paths through a program

A path is a run of some instructions with the faults that they report.  A path to the end of a
program is a run that halts.
-/

namespace RegisterMachine

/-- `count` instructions of the program lead from `source` to `target`, and report `faults`. -/
structure Path (program : Program) (source : State) (faults : List Fault)
    (count : Nat) (target : State) : Prop where
  after : source.after program count = target
  runs : source.Runs program count
  faults : (source.reports program count).filterMap Event.fault? = faults

namespace Path

variable {program : Program} {source middle target : State}
variable {faults before behind : List Fault} {count first second : Nat}

theorem refl (program : Program) (state : State) :
    Path program state [] 0 state where
  after := rfl
  runs := State.runs_zero program state
  faults := rfl

theorem trans
    (front : Path program source before first middle)
    (back : Path program middle behind second target) :
    Path program source (before ++ behind) (first + second) target := by
  have after := front.after
  subst after
  refine ⟨?_, front.runs.add back.runs, ?_⟩
  · rw [State.after_add, back.after]
  · rw [State.reports_add, List.filterMap_append, front.faults,
      back.faults]

theorem single
    {instruction : Instruction} {storage result : Storage}
    {ending : Ending} {counter : Word} {clock : UInt64}
    (executed :
      instruction.execute program.size storage = (result, ending))
    (fetched : program[counter.toNat]? = some instruction) :
    Path program ⟨storage, counter, clock⟩ ending.faults 1
      ⟨result, ending.counterAfter counter program.size, clock + 1⟩ := by
  have step :
      State.step program ⟨storage, counter, clock⟩ = _ :=
    State.step_of_getElem? fetched
  have inside : counter.toNat < program.size :=
    (Array.getElem?_eq_some_iff.mp fetched).1
  dsimp only at step
  rw [executed] at step
  refine ⟨?_, State.runs_one (Nat.not_le_of_lt inside), ?_⟩
  · rw [State.after, State.after, step]
  · rw [State.reports, State.reports, List.append_nil, step]
    exact ending.filterMap_fault?_events counter instruction

theorem haltsAfter
    {machine : Machine}
    (path : Path machine.program machine.state faults count target)
    (fits : machine.program.size < 2 ^ 32)
    (ended : target.Ended machine.program) :
    ∃ final, machine.HaltsAfter count final ∧ final.state = target := by
  refine ⟨machine.advance count, ?_, path.after⟩
  rw [← path.after] at ended
  exact Machine.haltsAfter_of_runs fits path.runs ended

/-- A path from the start to the end of a program is a run of every machine that has the program
loaded over the same memory. -/
theorem haltsAfter_load
    {machine : Machine}
    (path : Path program (State.start machine.memory) faults count target)
    (fits : program.size < 2 ^ 32)
    (ended : target.Ended program) :
    ∃ final,
      (machine.load program).HaltsAfter count final ∧
        final.state = target := by
  have loaded :
      Path (machine.load program).program (machine.load program).state
        faults count target :=
    path
  exact loaded.haltsAfter fits ended

end Path

end RegisterMachine
