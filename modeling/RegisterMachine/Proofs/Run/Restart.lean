import RegisterMachine.Proofs.Run.Sights

/-!
# Restarts

A program is loaded into a machine that has run before, or the machine is reset.  Of its past only
the memory is left: two machines with equal memories cannot be told apart by anything that is done
to them after the restart.
-/

namespace RegisterMachine

namespace Machine

variable {left right : Machine}

/-! ## What a restart keeps -/

theorem load_eq_fitted
    (sameMemory : left.memory = right.memory) (program : Program) :
    left.load program =
      (right.load program).fitted left.capacity left.sink :=
  eq_fitted rfl (congrArg State.start sameMemory)

theorem seen_load
    (sameMemory : left.memory = right.memory) (program : Program)
    (operations : List Operation) :
    left.seen (.load program :: operations) =
      right.seen (.load program :: operations) := by
  have same := load_eq_fitted sameMemory program
  have first :
      (Operation.load program).sights left (left.load program) =
        (Operation.load program).sights right (right.load program) := by
    rw [same]
    rfl
  have rest :
      (left.load program).seen operations =
        (right.load program).seen operations := by
    rw [same, seen_fitted]
  rw [seen, seen]
  dsimp only [Operation.apply]
  rw [first, rest]

/-- A reset is seen as the program being loaded again. -/
theorem seen_reset_eq_load
    (machine : Machine) (operations : List Operation) :
    machine.seen (.reset :: operations) =
      machine.seen (.load machine.program :: operations) :=
  rfl

/-! ## Two pasts -/

/-- Two machines are seen alike from a restart on, and a second restart changes nothing. -/
structure Forget (left right : Machine) : Prop where
  load :
    ∀ program operations,
      left.seen (.load program :: operations) =
        right.seen (.load program :: operations)
  reset :
    left.program = right.program →
      ∀ operations,
        left.seen (.reset :: operations) = right.seen (.reset :: operations)
  reset_load :
    ∀ program, (left.load program).reset = left.load program
  reset_reset : left.reset.reset = left.reset

theorem forget_of_memory_eq
    (sameMemory : left.memory = right.memory) : left.Forget right where
  load := seen_load sameMemory
  reset sameProgram operations := by
    rw [seen_reset_eq_load, seen_reset_eq_load, sameProgram,
      seen_load sameMemory]
  reset_load _ := rfl
  reset_reset := rfl

/-- One machine was interrupted in the loop of a program, and the other has run it to the end. -/
theorem forget_of_memory_eq_interrupted :
    let program : Program :=
      #[Instruction.loadDirect 0 0, Instruction.cmp 0 1,
        Instruction.jmpIfEqual 4, Instruction.jmp 1, Instruction.halt]
    let first := ((create 4 1 .silent).setCell 0 7).load program
    let left := (first.runLimit 6).1.setCell 0 0
    let right := (((create 9 1 (.record #[])).load program).runLimit 6).1
    left.memory = right.memory ∧
      left.program = right.program ∧
      left.status = .ready ∧
      right.status = .halted ∧
      left.state.registers ≠ right.state.registers ∧
      left.state.flags ≠ right.state.flags ∧
      ∀ operations,
        left.seen (.reset :: operations) =
          right.seen (.reset :: operations) := by
  intro program first left right
  have sameMemory : left.memory = right.memory := by decide
  have sameProgram : left.program = right.program := by decide
  have forget : left.Forget right := forget_of_memory_eq sameMemory
  exact
    ⟨sameMemory, sameProgram, by decide, by decide, by decide, by decide,
      forget.reset sameProgram⟩

end Machine

end RegisterMachine
