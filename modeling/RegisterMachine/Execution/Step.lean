import RegisterMachine.Execution.Event

/-!
# One step

A step runs the instruction that the counter names.  A counter outside the program means that there
is nothing left to run.
-/

namespace RegisterMachine

/-- What a step leaves behind. -/
structure StepResult where
  state : State
  /-- What the step reported, in order. -/
  events : List Event
  /-- Whether there is more to run. -/
  continues : Bool
  deriving DecidableEq

/-- Where the counter goes from an instruction at `counter` of a program of `programSize`
instructions.  The end of the program parks it just behind the last instruction. -/
def Ending.counterAfter (ending : Ending) (counter : Word) (programSize : Nat) : Word :=
  match ending with
  | next => counter + 1
  | fault _ => counter + 1
  | jump target => target
  | halt => Word.saturate programSize

/-- Whether a program of `programSize` instructions goes on after an instruction at `counter`. -/
def Ending.continues (ending : Ending) (counter : Word) (programSize : Nat) : Bool :=
  match ending with
  | halt => false
  | _ => decide ((ending.counterAfter counter programSize).toNat < programSize)

def State.step (program : Program) (state : State) : StepResult :=
  match state with
  | ⟨storage, counter, clock⟩ =>
    match program[counter.toNat]? with
    | none => ⟨⟨storage, counter, clock⟩, [], false⟩
    | some instruction =>
      match instruction.execute program.size storage with
      | (storage, ending) =>
        ⟨⟨storage, ending.counterAfter counter program.size, clock + 1⟩,
          .instruction counter instruction :: ending.events counter instruction,
          ending.continues counter program.size⟩

namespace State

theorem step_of_size_le {program : Program} {state : State}
    (ended : program.size ≤ state.counter.toNat) : state.step program = ⟨state, [], false⟩ := by
  simp only [step, Array.getElem?_eq_none ended]

theorem step_of_getElem? {program : Program} {state : State} {instruction : Instruction}
    (fetched : program[state.counter.toNat]? = some instruction) :
    state.step program =
      let result := instruction.execute program.size state.toStorage
      ⟨⟨result.1, result.2.counterAfter state.counter program.size, state.clock + 1⟩,
        .instruction state.counter instruction :: result.2.events state.counter instruction,
        result.2.continues state.counter program.size⟩ := by
  simp only [step, fetched]

end State

end RegisterMachine
