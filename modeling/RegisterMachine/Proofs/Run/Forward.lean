import RegisterMachine.Proofs.Execution.Control
import RegisterMachine.Proofs.Run.Blocks

/-!
# Programs that only go forward

In a program without backward jumps every instruction moves the counter up, also one that is refused
and a jump that is not taken.  So no instruction runs twice, and the run is over when there could be
no more instructions behind the counter.
-/

namespace RegisterMachine

/-- A jump leads forward or out of the program, unless its condition can never hold. -/
def Instruction.LeadsForward (instruction : Instruction) (position programSize : Nat) : Prop :=
  instruction.opcode = .jmp →
    instruction.src1 = 0 ∨ instruction.src1 = 1 →
      position < instruction.dst.toNat ∨ programSize ≤ instruction.dst.toNat

instance (instruction : Instruction) (position programSize : Nat) :
    Decidable (instruction.LeadsForward position programSize) :=
  inferInstanceAs (Decidable (_ → _ → _))

/-- No jump of the program leads backward. -/
def OnlyForward (program : Program) : Prop :=
  ∀ position : Fin program.size,
    program[position].LeadsForward position program.size

instance (program : Program) : Decidable (OnlyForward program) :=
  inferInstanceAs (Decidable (∀ _, _))

/-! ## One step -/

theorem Instruction.LeadsForward.lt_following
    {instruction : Instruction} {position programSize : Nat}
    (forward : instruction.LeadsForward position programSize)
    (inside : position < programSize) (storage : Storage) :
    position < instruction.following programSize storage position := by
  obtain ⟨opcode, dst, src1, src2⟩ := instruction
  cases opcode with
  | halt => exact inside
  | jmp =>
      unfold following
      dsimp only
      split
      · next taken =>
          obtain ⟨targetInside, takes⟩ := taken
          have possible : src1 = 0 ∨ src1 = 1 := takes.imp_right And.left
          rcases forward rfl possible with ahead | outside
          · exact ahead
          · exact absurd targetInside (Nat.not_lt.mpr outside)
      · exact Nat.lt_succ_self position
  | _ => exact Nat.lt_succ_self position

namespace State

variable {program : Program} {state : State} {count : Nat}

theorem counter_lt_counter_step
    (fits : program.size < 2 ^ 32) (forward : OnlyForward program)
    (notEnded : ¬ state.Ended program) :
    state.counter.toNat < (state.step program).state.counter.toNat := by
  have inside := Nat.not_le.mp notEnded
  have fetched := Array.getElem?_eq_getElem inside
  have leads := forward ⟨state.counter.toNat, inside⟩
  rw [toNat_counter_step_eq_following fits fetched]
  exact leads.lt_following inside state.toStorage

/-! ## Many steps -/

/-- As many steps as there are instructions behind the counter are enough. -/
theorem ended_after_of_onlyForward
    (fits : program.size < 2 ^ 32) (forward : OnlyForward program)
    (enough : program.size ≤ state.counter.toNat + count) :
    (state.after program count).Ended program := by
  induction count generalizing state with
  | zero => exact enough
  | succ count inductionHypothesis =>
      by_cases ended : state.Ended program
      · rw [after_of_ended ended]
        exact ended
      · have moved := counter_lt_counter_step fits forward ended
        rw [after]
        apply inductionHypothesis
        omega

theorem le_counter_of_mem_blocks
    (fits : program.size < 2 ^ 32) (forward : OnlyForward program)
    {block : Block} (member : block ∈ state.blocks program count) :
    state.counter.toNat ≤ block.counter.toNat := by
  induction count generalizing state with
  | zero => cases member
  | succ count inductionHypothesis =>
      by_cases ended : state.Ended program
      · rw [blocks_of_ended ended] at member
        cases member
      obtain ⟨instruction, fetched⟩ := exists_fetched ended
      have moved := counter_lt_counter_step fits forward ended
      rw [blocks_succ_of_fetched fetched] at member
      rcases List.mem_cons.mp member with rfl | later
      · exact Nat.le_refl _
      · have behind := inductionHypothesis later
        omega

/-- The instructions of a run stand in the program in the order in which they run. -/
theorem pairwise_counter_blocks
    (fits : program.size < 2 ^ 32) (forward : OnlyForward program)
    (count : Nat) (state : State) :
    (state.blocks program count).Pairwise
      (·.counter.toNat < ·.counter.toNat) := by
  induction count generalizing state with
  | zero => exact List.Pairwise.nil
  | succ count inductionHypothesis =>
      by_cases ended : state.Ended program
      · rw [blocks_of_ended ended]
        exact List.Pairwise.nil
      obtain ⟨instruction, fetched⟩ := exists_fetched ended
      have moved := counter_lt_counter_step fits forward ended
      rw [blocks_succ_of_fetched fetched, List.pairwise_cons]
      refine ⟨?_, inductionHypothesis (state.step program).state⟩
      intro block later
      have behind := le_counter_of_mem_blocks fits forward later
      exact Nat.lt_of_lt_of_le moved behind

end State

/-! ## Machines -/

/-- The position of the instruction that an event announces. -/
def Event.position? : Event → Option Word
  | .instruction counter _ => some counter
  | _ => none

theorem Block.filterMap_position?_events (block : Block) :
    block.events.filterMap Event.position? = [block.counter] := by
  obtain ⟨counter, instruction, ending⟩ := block
  cases ending <;> rfl

namespace Machine

/-- The positions of the instructions that a bounded run executes, in order. -/
def positions (machine : Machine) (limit : Nat) : List Word :=
  (machine.heard limit).filterMap Event.position?

variable {machine : Machine}

theorem positions_eq_map_blocks
    (fits : machine.program.size < 2 ^ 32) (limit : Nat) :
    machine.positions limit =
      (machine.state.blocks machine.program limit).map Block.counter := by
  rw [positions, heard_eq_reports fits, State.reports_eq_flatMap_blocks,
    List.filterMap_flatMap]
  simp only [Block.filterMap_position?_events]
  exact (List.map_eq_flatMap).symm

/-- From wherever a forward program is started, it halts after no more instructions than stand
behind the counter, and runs none of them twice. -/
theorem haltsAfter_of_onlyForward
    (fits : machine.program.size < 2 ^ 32)
    (forward : OnlyForward machine.program) :
    (∃ count final,
        count ≤ machine.program.size - machine.state.counter.toNat ∧
          machine.HaltsAfter count final) ∧
      (machine.runLimit
          (machine.program.size - machine.state.counter.toNat)).2 =
        .halted ∧
      ∀ limit, (machine.positions limit).Nodup := by
  have ended :
      (machine.advance
          (machine.program.size - machine.state.counter.toNat)).state.Ended
        machine.program :=
    State.ended_after_of_onlyForward fits forward (by omega)
  obtain ⟨count, few, haltsAfter⟩ := exists_haltsAfter_of_ended fits ended
  refine ⟨⟨count, _, few, haltsAfter⟩, ?_, ?_⟩
  · exact congrArg Prod.snd (haltsAfter.runLimit_of_le _ few)
  · intro limit
    rw [positions_eq_map_blocks fits, List.Nodup, List.pairwise_map]
    refine
      (State.pairwise_counter_blocks fits forward limit machine.state).imp ?_
    intro earlier later ascending same
    rw [same] at ascending
    exact Nat.lt_irrefl _ ascending

/-- A backward jump that is never taken, one out of the program, and a bad register, entered behind
the first instruction. -/
theorem haltsAfter_of_onlyForward_entered :
    let program : Program :=
      #[Instruction.jmp 4, ⟨.jmp, 0, 2, 0⟩, Instruction.jmpIfEqual 99,
        Instruction.add 16 0 0]
    let machine : Machine :=
      ⟨program, { State.start (Memory.zeros 1) with counter := 1 }, 4, .silent⟩
    machine.program.size < 2 ^ 32 ∧
      OnlyForward machine.program ∧
      (machine.runLimit 3).2 = .halted ∧
      (machine.positions 3).Nodup ∧
      machine.positions 3 = [1, 2, 3] := by
  intro program machine
  have fits : machine.program.size < 2 ^ 32 := by decide
  have forward : OnlyForward machine.program := by decide
  obtain ⟨-, limited, once⟩ := haltsAfter_of_onlyForward fits forward
  exact ⟨fits, forward, limited, once 3, by decide⟩

end Machine

end RegisterMachine
