import RegisterMachine.Proofs.Run.Lifecycle

/-!
# What the log of a run tells

Every instruction that runs leaves one block in the log: itself, and then how it ended, unless the
following instruction is simply next.  A log can be cut into blocks in one way only, and the blocks
tell where the counter was at each instruction and where it went from there.  So the log alone
replays the way of the counter through the program.
-/

namespace RegisterMachine

/-- An instruction that has run, with its address and its ending. -/
structure Block where
  counter : Word
  instruction : Instruction
  ending : Ending
  deriving DecidableEq

namespace Block

/-- The part of a log that belongs to a block. -/
def events : Block → List Event
  | ⟨counter, instruction, .next⟩ => [.instruction counter instruction]
  | ⟨counter, instruction, .jump target⟩ =>
    [.instruction counter instruction, .jump counter target]
  | ⟨counter, instruction, .fault reason⟩ =>
    [.instruction counter instruction, .fault counter instruction reason]
  | ⟨counter, instruction, .halt⟩ =>
    [.instruction counter instruction, .halt counter]

/-- Where the counter of a program of `programSize` instructions goes from a block. -/
def following (programSize : Nat) (block : Block) : Nat :=
  match block.ending with
  | .next => block.counter.toNat + 1
  | .fault _ => block.counter.toNat + 1
  | .jump target => target.toNat
  | .halt => programSize

/-! ## Cutting a log into blocks -/

/-- Whatever follows a block begins with an instruction, so a block ends where the next instruction
is reported. -/
theorem exists_of_flatMap_events_eq_cons
    {blocks : List Block} {event : Event} {rest : List Event}
    (same : blocks.flatMap events = event :: rest) :
    ∃ counter instruction, event = .instruction counter instruction := by
  cases blocks with
  | nil => cases same
  | cons block blocks =>
      obtain ⟨counter, instruction, ending⟩ := block
      refine ⟨counter, instruction, ?_⟩
      cases ending <;> exact (List.cons.inj same).1.symm

theorem events_ne_nil (block : Block) : block.events ≠ [] := by
  obtain ⟨counter, instruction, ending⟩ := block
  cases ending <;> exact List.cons_ne_nil _ _

theorem append_events_inj
    {block other : Block} {left right : List Block}
    (same :
      block.events ++ left.flatMap events =
        other.events ++ right.flatMap events) :
    block = other ∧ left.flatMap events = right.flatMap events := by
  obtain ⟨counter, instruction, ending⟩ := block
  obtain ⟨otherCounter, otherInstruction, otherEnding⟩ := other
  -- Blocks that end alike are compared event by event.  Otherwise one of them is over where the
  -- other reports its ending, and no block begins with such an event.
  cases ending <;> cases otherEnding <;>
    grind [events, exists_of_flatMap_events_eq_cons]

theorem flatMap_events_injective
    {left right : List Block}
    (same : left.flatMap events = right.flatMap events) : left = right := by
  induction left generalizing right with
  | nil =>
      cases right with
      | nil => rfl
      | cons other right =>
          have empty := (List.append_eq_nil_iff.mp same.symm).1
          exact absurd empty other.events_ne_nil
  | cons block left inductionHypothesis =>
      cases right with
      | nil =>
          have empty := (List.append_eq_nil_iff.mp same).1
          exact absurd empty block.events_ne_nil
      | cons other right =>
          obtain ⟨sameBlock, rest⟩ := append_events_inj same
          rw [sameBlock, inductionHypothesis rest]

end Block

/-! ## The way of the counter -/

/-- `Trail program counter blocks final` says that the blocks lead the counter from `counter` to
`final`.  The end of the program is the last of them. -/
inductive Trail (program : Program) : Nat → List Block → Nat → Prop
  | done (counter : Nat) : Trail program counter [] counter
  | block {counter final : Nat} {block : Block} {blocks : List Block} :
      block.counter.toNat = counter →
      program[counter]? = some block.instruction →
      (∀ target, block.ending = .jump target → target.toNat < program.size) →
      (block.ending = .halt → blocks = []) →
      Trail program (block.following program.size) blocks final →
      Trail program counter (block :: blocks) final

theorem target_lt_of_execute
    {instruction : Instruction} {programSize : Nat} {storage : Storage}
    {target : Word}
    (jumped : (instruction.execute programSize storage).2 = .jump target) :
    target.toNat < programSize := by
  have effect := effect_execute instruction programSize storage
  generalize instruction.execute programSize storage = outcome
    at effect jumped
  obtain ⟨result, ending⟩ := outcome
  dsimp only at jumped
  subst jumped
  exact effect.target_lt

namespace State

variable {program : Program} {state : State}

/-- The block of the next instruction, if there is one. -/
def block? (program : Program) (state : State) : Option Block :=
  program[state.counter.toNat]?.map fun instruction =>
    ⟨state.counter, instruction,
      (instruction.execute program.size state.toStorage).2⟩

/-- The blocks of a number of steps, in order. -/
def blocks (program : Program) : Nat → State → List Block
  | 0, _ => []
  | count + 1, state =>
    (state.block? program).toList ++
      blocks program count (state.step program).state

theorem block?_eq_none_iff :
    state.block? program = none ↔ state.Ended program := by
  rw [block?, Option.map_eq_none_iff, Array.getElem?_eq_none_iff]
  exact Iff.rfl

theorem events_step (program : Program) (state : State) :
    (state.step program).events =
      (state.block? program).toList.flatMap Block.events := by
  cases fetched : program[state.counter.toNat]? with
  | none =>
      have ended := Array.getElem?_eq_none_iff.mp fetched
      rw [step_of_size_le ended, block?, fetched]
      rfl
  | some instruction =>
      rw [step_of_getElem? fetched, block?, fetched]
      dsimp only [Option.map, Option.toList, List.flatMap_singleton]
      cases (instruction.execute program.size state.toStorage).2 <;> rfl

theorem reports_eq_flatMap_blocks
    (program : Program) (count : Nat) (state : State) :
    state.reports program count =
      (state.blocks program count).flatMap Block.events := by
  induction count generalizing state with
  | zero => rfl
  | succ count inductionHypothesis =>
      rw [reports, blocks, List.flatMap_append, events_step,
        inductionHypothesis]

theorem blocks_of_ended (ended : state.Ended program) (count : Nat) :
    state.blocks program count = [] := by
  induction count with
  | zero => rfl
  | succ count inductionHypothesis =>
      rw [blocks, block?_eq_none_iff.mpr ended, step_of_ended ended,
        inductionHypothesis]
      rfl

theorem blocks_succ_of_fetched
    {instruction : Instruction}
    (fetched : program[state.counter.toNat]? = some instruction)
    (count : Nat) :
    state.blocks program (count + 1) =
      ⟨state.counter, instruction,
          (instruction.execute program.size state.toStorage).2⟩ ::
        (state.step program).state.blocks program count := by
  rw [blocks, block?, fetched]
  rfl

theorem toNat_counter_step
    (fits : program.size < 2 ^ 32) {instruction : Instruction}
    (fetched : program[state.counter.toNat]? = some instruction) :
    (state.step program).state.counter.toNat =
      Block.following program.size
        ⟨state.counter, instruction,
          (instruction.execute program.size state.toStorage).2⟩ := by
  have next := toNat_counter_add_one fits fetched
  rw [step_of_getElem? fetched]
  dsimp only
  cases (instruction.execute program.size state.toStorage).2 with
  | next => exact next
  | fault reason => exact next
  | jump target => rfl
  | halt => exact Word.toNat_saturate fits

theorem trail_blocks
    (fits : program.size < 2 ^ 32) (count : Nat) (state : State) :
    Trail program state.counter.toNat (state.blocks program count)
      (state.after program count).counter.toNat := by
  induction count generalizing state with
  | zero => exact Trail.done _
  | succ count inductionHypothesis =>
      by_cases ended : state.Ended program
      · rw [blocks_of_ended ended, after_of_ended ended]
        exact Trail.done _
      obtain ⟨instruction, fetched⟩ := exists_fetched ended
      have moved := toNat_counter_step fits fetched
      rw [blocks_succ_of_fetched fetched, after]
      refine Trail.block rfl fetched ?_ ?_ ?_
      · intro target jumped
        exact target_lt_of_execute jumped
      · intro halted
        dsimp only at halted
        rw [halted] at moved
        exact blocks_of_ended (Nat.le_of_eq moved.symm) count
      · rw [← moved]
        exact inductionHypothesis (state.step program).state

theorem length_blocks_le (program : Program) (count : Nat) (state : State) :
    (state.blocks program count).length ≤ count := by
  induction count generalizing state with
  | zero => exact Nat.le_refl 0
  | succ count inductionHypothesis =>
      by_cases ended : state.Ended program
      · rw [blocks_of_ended ended]
        exact Nat.zero_le (count + 1)
      obtain ⟨instruction, fetched⟩ := exists_fetched ended
      rw [blocks_succ_of_fetched fetched, List.length_cons]
      exact Nat.succ_le_succ (inductionHypothesis _)

/-- The clock counts the blocks. -/
theorem clock_after_eq_add_length
    (program : Program) (count : Nat) (state : State) :
    (state.after program count).clock =
      state.clock + UInt64.ofNat (state.blocks program count).length := by
  induction count generalizing state with
  | zero => exact (UInt64.add_zero state.clock).symm
  | succ count inductionHypothesis =>
      by_cases ended : state.Ended program
      · rw [blocks_of_ended ended, after_of_ended ended]
        exact (UInt64.add_zero state.clock).symm
      obtain ⟨instruction, fetched⟩ := exists_fetched ended
      rw [blocks_succ_of_fetched fetched, after, inductionHypothesis,
        clock_step ended, List.length_cons, Nat.add_comm,
        UInt64.ofNat_add, UInt64.add_assoc]
      rfl

/-- A block begins where the steps before it have led the counter. -/
theorem counter_of_getElem?_blocks
    {count index : Nat} {block : Block}
    (found : (state.blocks program count)[index]? = some block) :
    block.counter = (state.after program index).counter := by
  induction count generalizing state index with
  | zero => cases found
  | succ count inductionHypothesis =>
      by_cases ended : state.Ended program
      · rw [blocks_of_ended ended] at found
        cases found
      obtain ⟨instruction, fetched⟩ := exists_fetched ended
      rw [blocks_succ_of_fetched fetched] at found
      cases index with
      | zero =>
          cases found
          rfl
      | succ index =>
          rw [List.getElem?_cons_succ] at found
          rw [after]
          exact inductionHypothesis found

end State

/-! ## The log of a bounded run -/

/-- The blocks are the only way to cut the log of a bounded run, there is one for each instruction
that it runs, and they tell the way of its counter.  There are no more blocks than the limit allows,
so for a limit below `2 ^ 64` the clock tells their number. -/
structure Machine.Replays
    (machine : Machine) (limit : Nat) (blocks : List Block) : Prop where
  heard : blocks.flatMap Block.events = machine.heard limit
  unique :
    ∀ others : List Block,
      others.flatMap Block.events = machine.heard limit → others = blocks
  length_le : blocks.length ≤ limit
  steps :
    (machine.runLimit limit).1.state.steps =
      (machine.state.steps + blocks.length) % 2 ^ 64
  trail :
    Trail machine.program machine.state.counter.toNat blocks
      (machine.runLimit limit).1.state.counter.toNat
  counter :
    ∀ (index : Nat) (inside : index < blocks.length),
      blocks[index].counter =
        (machine.runLimit index).1.state.counter

namespace Reachable

variable {dataSize : Nat} {machine : Machine}

/-- Whatever a machine has been used for, the log of its next run replays that run. -/
theorem exists_replays
    (reachable : Reachable dataSize machine) (limit : Nat) :
    ∃ blocks, machine.Replays limit blocks := by
  have fits := reachable.sound.fits
  let blocks := machine.state.blocks machine.program limit
  have heard : blocks.flatMap Block.events = machine.heard limit := by
    rw [Machine.heard_eq_reports fits]
    exact
      (State.reports_eq_flatMap_blocks machine.program limit
        machine.state).symm
  refine ⟨blocks, heard, ?_, ?_, ?_, ?_, ?_⟩
  · intro others same
    exact Block.flatMap_events_injective (same.trans heard.symm)
  · exact State.length_blocks_le machine.program limit machine.state
  · rw [Machine.runLimit_eq_advance limit machine fits]
    exact
      State.steps_of_clock_eq_add
        (State.clock_after_eq_add_length machine.program limit
          machine.state)
  · rw [Machine.runLimit_eq_advance limit machine fits]
    exact State.trail_blocks fits limit machine.state
  · intro index inside
    rw [Machine.runLimit_eq_advance index machine fits]
    exact
      State.counter_of_getElem?_blocks (List.getElem?_eq_getElem inside)

/-- A jump over the end of the program, a refused store, and a jump back to the end. -/
theorem exists_replays_jumpBack :
    let program : Program :=
      #[Instruction.jmp 2, Instruction.halt, Instruction.store 9 0,
        Instruction.jmp 1]
    let machine := (Machine.create 4 1 .silent).load program
    Reachable 1 machine ∧
      machine.Replays 9
        [⟨0, Instruction.jmp 2, .jump 2⟩,
          ⟨2, Instruction.store 9 0, .fault (.memoryOutOfRange 9)⟩,
          ⟨3, Instruction.jmp 1, .jump 1⟩,
          ⟨1, Instruction.halt, .halt⟩] := by
  intro program machine
  have fits : program.size < 2 ^ 32 := by decide
  have reachable : Reachable 1 machine :=
    (Reachable.create 4 .silent).apply (.load program) fits rfl
  obtain ⟨blocks, replays⟩ := exists_replays reachable 9
  refine ⟨reachable, ?_⟩
  rw [replays.unique
    [⟨0, Instruction.jmp 2, .jump 2⟩,
      ⟨2, Instruction.store 9 0, .fault (.memoryOutOfRange 9)⟩,
      ⟨3, Instruction.jmp 1, .jump 1⟩,
      ⟨1, Instruction.halt, .halt⟩] (by decide)]
  exact replays

end Reachable

end RegisterMachine
