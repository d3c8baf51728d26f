import RegisterMachine.Proofs.Execution.Fault
import RegisterMachine.Proofs.Run.Limit

/-!
# The life of a machine

Whatever is done to a machine after it was created, its counter never passes the end of its program
and its memory keeps its size.  The counter says whether the machine is halted, and a halted machine
does nothing more until it is loaded or reset.
-/

namespace RegisterMachine

open Trace

/-! ## The counter stays inside -/

theorem Effect.target_lt
    {programSize : Nat} {storage result : Storage}
    {instruction : Instruction} {target : Word}
    (effect :
      Effect programSize storage instruction (result, .jump target)) :
    target.toNat < programSize := by
  cases effect with
  | jump inside taken => exact inside

namespace State

variable {program : Program} {state : State}

theorem counter_step_le
    (fits : program.size < 2 ^ 32)
    (inside : state.counter.toNat ≤ program.size) :
    (state.step program).state.counter.toNat ≤ program.size := by
  by_cases ended : state.Ended program
  · rw [step_of_ended ended]
    exact inside
  obtain ⟨instruction, fetched⟩ := exists_fetched ended
  have following := toNat_counter_add_one fits fetched
  have notLast := Nat.not_le.mp ended
  have effect := effect_execute instruction program.size state.toStorage
  rw [step_of_getElem? fetched]
  generalize instruction.execute program.size state.toStorage = outcome
    at effect ⊢
  obtain ⟨result, ending⟩ := outcome
  -- The following instruction is at most one past the last, and so are all other ways to go on.
  cases ending with
  | next => exact following.trans_le notLast
  | fault reason => exact following.trans_le notLast
  | jump target => exact Nat.le_of_lt effect.target_lt
  | halt => exact Nat.le_of_eq (Word.toNat_saturate fits)

theorem counter_after_le
    (fits : program.size < 2 ^ 32)
    (inside : state.counter.toNat ≤ program.size) (count : Nat) :
    (state.after program count).counter.toNat ≤ program.size := by
  induction count generalizing state with
  | zero => exact inside
  | succ count inductionHypothesis =>
      exact inductionHypothesis (counter_step_le fits inside)

end State

/-! ## What can be done to a machine -/

inductive Operation where
  | load (program : Program)
  | reset
  | step
  | runLimit (limit : Nat)
  | run
  | setCell (address value : Word)
  | setSink (sink : Sink)

namespace Operation

/-- The machine after an operation.  There is none after a run that never ends. -/
def apply (machine : Machine) : Operation → Option Machine
  | .load program => some (machine.load program)
  | .reset => some machine.reset
  | .step => some machine.step.1
  | .runLimit limit => some (machine.runLimit limit).1
  | .run => machine.run
  | .setCell address value => some (machine.setCell address value)
  | .setSink sink => some (machine.setSink sink)

/-- A counter can pass the program that the operation loads. -/
def Fits : Operation → Prop
  | .load program => program.size < 2 ^ 32
  | _ => True

/-- The operation goes back to the start of a program. -/
def Restarts : Operation → Prop
  | .load _ => True
  | .reset => True
  | _ => False

end Operation

/-- Some operations lead to the machine from a created one with `dataSize` memory cells. -/
inductive Reachable (dataSize : Nat) : Machine → Prop
  | create (capacity : Nat) (sink : Sink) :
      Reachable dataSize (Machine.create capacity dataSize sink)
  | apply {machine result : Machine} (operation : Operation) :
      Reachable dataSize machine →
      operation.Fits →
      operation.apply machine = some result →
      Reachable dataSize result

namespace Machine

variable {dataSize : Nat} {machine result : Machine} {operation : Operation}

/-! ## The invariant -/

/-- What no operation breaks. -/
structure Sound (dataSize : Nat) (machine : Machine) : Prop where
  fits : machine.program.size < 2 ^ 32
  counter_le : machine.state.counter.toNat ≤ machine.program.size
  size_memory : machine.memory.size = dataSize

namespace Sound

theorem create (capacity dataSize : Nat) (sink : Sink) :
    (Machine.create capacity dataSize sink).Sound dataSize where
  fits := Nat.two_pow_pos 32
  counter_le := Nat.le_refl 0
  size_memory := Memory.size_zeros dataSize

theorem load
    {program : Program} (sound : machine.Sound dataSize)
    (fits : program.size < 2 ^ 32) :
    (machine.load program).Sound dataSize where
  fits := fits
  counter_le := Nat.zero_le program.size
  size_memory := sound.size_memory

theorem advance (sound : machine.Sound dataSize) (count : Nat) :
    (machine.advance count).Sound dataSize where
  fits := sound.fits
  counter_le := State.counter_after_le sound.fits sound.counter_le count
  size_memory :=
    (State.size_memory_after machine.program count machine.state).trans
      sound.size_memory

theorem setCell
    (sound : machine.Sound dataSize) (address value : Word) :
    (machine.setCell address value).Sound dataSize where
  fits := sound.fits
  counter_le := sound.counter_le
  size_memory :=
    (Memory.size_set machine.memory address value).trans sound.size_memory

theorem ended_iff (sound : machine.Sound dataSize) :
    machine.state.Ended machine.program ↔
      machine.state.counter.toNat = machine.program.size := by
  have inside := sound.counter_le
  unfold State.Ended
  omega

end Sound

/-- Operations that do not restart the machine only take steps, write cells or change the sink. -/
theorem exists_advance_of_apply
    (fits : machine.program.size < 2 ^ 32)
    (notRestarts : ¬ operation.Restarts)
    (applied : operation.apply machine = some result) :
    (∃ count, result = machine.advance count) ∨
      (∃ address value, result = machine.setCell address value) ∨
      ∃ sink, result = machine.setSink sink := by
  cases operation with
  | load program => exact (notRestarts trivial).elim
  | reset => exact (notRestarts trivial).elim
  | step =>
      cases applied
      exact Or.inl ⟨1, congrArg Prod.fst machine.step_eq⟩
  | runLimit limit =>
      cases applied
      have limited := machine.runLimit_eq_advance limit fits
      exact Or.inl ⟨limit, congrArg Prod.fst limited⟩
  | run =>
      obtain ⟨count, reached, -⟩ := exists_advance_of_runRounds fits applied
      exact Or.inl ⟨count, reached.symm⟩
  | setCell address value =>
      cases applied
      exact Or.inr (Or.inl ⟨address, value, rfl⟩)
  | setSink sink =>
      cases applied
      exact Or.inr (Or.inr ⟨sink, rfl⟩)

theorem Sound.apply
    (sound : machine.Sound dataSize) (operationFits : operation.Fits)
    (applied : operation.apply machine = some result) :
    result.Sound dataSize := by
  by_cases restarts : operation.Restarts
  · cases operation with
    | load program =>
        cases applied
        exact sound.load operationFits
    | reset =>
        cases applied
        exact sound.load sound.fits
    | _ => exact restarts.elim
  · rcases exists_advance_of_apply sound.fits restarts applied with
      ⟨count, rfl⟩ | ⟨address, value, rfl⟩ | ⟨sink, rfl⟩
    · exact sound.advance count
    · exact sound.setCell address value
    · exact ⟨sound.fits, sound.counter_le, sound.size_memory⟩

/-! ## Halted machines -/

theorem status_apply_of_halted
    (fits : machine.program.size < 2 ^ 32)
    (halted : machine.status = .halted)
    (notRestarts : ¬ operation.Restarts)
    (applied : operation.apply machine = some result) :
    result.status = .halted := by
  rcases exists_advance_of_apply fits notRestarts applied with
    ⟨count, rfl⟩ | ⟨address, value, rfl⟩ | ⟨sink, rfl⟩
  · rw [advance_of_ended ((status_eq_halted_iff machine).mp halted)]
    exact halted
  · exact halted
  · exact halted

/-- Driving the machine changes nothing of it. -/
structure Rests (machine : Machine) : Prop where
  step : machine.step = (machine, false)
  runLimit : ∀ limit, machine.runLimit limit = (machine, .halted)
  run : machine.run = some machine

theorem rests_of_halted
    (fits : machine.program.size < 2 ^ 32)
    (halted : machine.status = .halted) :
    machine.Rests := by
  have ended := (status_eq_halted_iff machine).mp halted
  have haltsAfter : machine.HaltsAfter 0 machine :=
    haltsAfter_of_runs fits
      (State.runs_zero machine.program machine.state) ended
  have answer :
      (machine.state.step machine.program).continues = false := by
    rw [State.step_of_ended ended]
  exact
    { step := by rw [step_eq, answer, advance_of_ended ended]
      runLimit := fun limit =>
        haltsAfter.runLimit_of_le limit (Nat.zero_le limit)
      run := haltsAfter.run }

/-! ## The life of a machine -/

structure Lifecycle (dataSize : Nat) (machine : Machine) : Prop where
  counter_le : machine.state.counter.toNat ≤ machine.program.size
  size_memory : machine.memory.size = dataSize
  halted_iff :
    machine.status = .halted ↔
      machine.state.counter.toNat = machine.program.size
  step_iff : machine.step.2 = true ↔ machine.step.1.status = .ready
  /-- Whatever sink listens, it hears nothing of a halted machine. -/
  rests_of_halted :
    machine.status = .halted → ∀ sink, (machine.setSink sink).Rests
  status_apply_of_halted :
    machine.status = .halted →
      ∀ (operation : Operation) (result : Machine),
        ¬ operation.Restarts → operation.apply machine = some result →
          result.status = .halted

theorem lifecycle_of_sound (sound : machine.Sound dataSize) :
    machine.Lifecycle dataSize where
  counter_le := sound.counter_le
  size_memory := sound.size_memory
  halted_iff := (status_eq_halted_iff machine).trans sound.ended_iff
  step_iff := by
    rw [step_eq, status_eq_ready_iff]
    exact State.continues_step_iff sound.fits machine.state
  rests_of_halted halted sink := by
    have fits : (machine.setSink sink).program.size < 2 ^ 32 := sound.fits
    exact Machine.rests_of_halted fits halted
  status_apply_of_halted halted _ _ :=
    Machine.status_apply_of_halted sound.fits halted

end Machine

namespace Reachable

variable {dataSize : Nat} {machine : Machine}

theorem sound (reachable : Reachable dataSize machine) :
    machine.Sound dataSize := by
  induction reachable with
  | create capacity sink => exact Machine.Sound.create capacity dataSize sink
  | apply operation reached operationFits applied inductionHypothesis =>
      exact inductionHypothesis.apply operationFits applied

/-- Every machine that was created and then used in any way has this life. -/
theorem lifecycle (reachable : Reachable dataSize machine) :
    machine.Lifecycle dataSize :=
  Machine.lifecycle_of_sound reachable.sound

/-- An instruction behind the one that ends the program, and a cell written after the end. -/
theorem lifecycle_parked :
    let program : Program := #[Instruction.halt, Instruction.jmp 0]
    let machine :=
      (((Machine.create 4 2 .silent).load program).step.1).setCell 1 7
    Reachable 2 machine ∧
      machine.status = .halted ∧
      machine.state.counter.toNat = machine.program.size ∧
      machine.memory.size = 2 ∧
      machine.run = some machine := by
  intro program machine
  have fits : program.size < 2 ^ 32 := by decide
  have loaded : Reachable 2 ((Machine.create 4 2 .silent).load program) :=
    (Reachable.create 4 .silent).apply (.load program) fits rfl
  have stepped := loaded.apply .step trivial rfl
  have reachable : Reachable 2 machine :=
    stepped.apply (.setCell 1 7) trivial rfl
  have life := lifecycle reachable
  have halted : machine.status = .halted := by decide
  exact
    ⟨reachable, halted, life.halted_iff.mp halted, life.size_memory,
      (life.rests_of_halted halted .silent).run⟩

end Reachable

end RegisterMachine
