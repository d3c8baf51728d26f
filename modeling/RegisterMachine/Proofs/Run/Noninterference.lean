import RegisterMachine.Proofs.Run.Locality
import RegisterMachine.Proofs.Run.Writes

/-!
# Cells that a run does not read

A run that reads a memory cell only after it has stored to it does not depend on what the cell held
at first.  Two runs of one program from memories that differ in such cells go on alike, and the
memories become alike on every cell that the runs store to.
-/

namespace RegisterMachine

/-! ## Writes make memories alike -/

theorem Write.latest_of_mem
    {writes : List Write} {address : Word}
    (written : ∃ write ∈ writes, write.address = address)
    (before other : Word) :
    latest before address writes = latest other address writes := by
  obtain ⟨write, member, hit⟩ := written
  have kept :
      write ∈ writes.filter fun write => write.address = address :=
    List.mem_filter.mpr ⟨member, by simpa using hit⟩
  unfold latest
  cases last :
      (writes.filter fun write => write.address = address).getLast? with
  | some write => rfl
  | none =>
      rw [List.getLast?_eq_none_iff.mp last] at kept
      cases kept

theorem Memory.Alike.writeAll
    {cells : Word → Prop} {left right : Memory}
    (alike : left.Alike cells right) (writes : List Write) :
    (left.writeAll writes).Alike
      (fun address =>
        cells address ∨ ∃ write ∈ writes, write.address = address)
      (right.writeAll writes) where
  size := by rw [size_writeAll, size_writeAll, alike.size]
  get address grown := by
    rcases Nat.lt_or_ge address.toNat left.size with inside | outside
    · have insideRight : address.toNat < right.size := by
        rw [← alike.size]
        exact inside
      rw [get_writeAll inside, get_writeAll insideRight]
      rcases grown with inCells | written
      · rw [alike.get address inCells]
      · exact Write.latest_of_mem written _ _
    · have outsideRight : right.size ≤ address.toNat := by
        rw [← alike.size]
        exact outside
      rw [get_of_size_le (by rwa [size_writeAll]),
        get_of_size_le (by rwa [size_writeAll])]

namespace State

variable {program : Program} {differing : Word → Prop}
variable {left right : State} {count earlier : Nat}

/-- The run has stored to the memory cell in its first `count` steps. -/
def Stored (program : Program) (count : Nat) (state : State) (address : Word) : Prop :=
  ∃ write ∈ state.writes program count, write.address = address

/-- The first `count` steps of the run read none of the cells before the run has stored to it. -/
def Spares (program : Program) (cells : Word → Prop) (count : Nat) (state : State) : Prop :=
  ∀ earlier < count, ∀ address, cells address →
    (state.after program earlier).Reads program address →
      state.Stored program earlier address

theorem Spares.of_le
    (spares : left.Spares program differing count)
    (isEarlier : earlier ≤ count) :
    left.Spares program differing earlier :=
  fun index before => spares index (Nat.lt_of_lt_of_le before isEarlier)

theorem stored_succ
    {address : Word}
    (stored : left.Stored program (count + 1) address) :
    left.Stored program count address ∨
      ∃ write ∈ ((left.after program count).write? program).toList,
        write.address = address := by
  obtain ⟨write, member, hit⟩ := stored
  rw [writes_add, writes, writes, List.append_nil, List.mem_append] at member
  rcases member with before | last
  · exact Or.inl ⟨write, before, hit⟩
  · exact Or.inr ⟨write, last, hit⟩

theorem Alike.write?_eq
    {cells : Word → Prop} (alike : left.Alike cells right) :
    left.write? program = right.write? program := by
  unfold write?
  rw [alike.counter, alike.storage.registers]

/-- A step that reads only cells on which the states are alike makes them alike on the cell that it
writes. -/
theorem Alike.step_growing
    {cells : Word → Prop} (alike : left.Alike cells right)
    (reads : ∀ address, left.Reads program address → cells address) :
    (left.step program).state.Alike
        (fun address =>
          cells address ∨
            ∃ write ∈ (left.write? program).toList,
              write.address = address)
        (right.step program).state ∧
      (left.step program).events = (right.step program).events ∧
      (left.step program).continues = (right.step program).continues := by
  obtain ⟨next, reported⟩ := alike.step reads
  have memory :=
    alike.storage.memory.writeAll (left.write? program).toList
  rw [← memory_step_eq_writeAll, alike.write?_eq,
    ← memory_step_eq_writeAll, ← alike.write?_eq] at memory
  exact
    ⟨⟨⟨next.storage.registers, next.storage.flags, memory⟩,
      next.counter, next.clock⟩, reported⟩

theorem Alike.mono
    {cells fewer : Word → Prop} (alike : left.Alike cells right)
    (among : ∀ address, fewer address → cells address) :
    left.Alike fewer right where
  storage :=
    { registers := alike.storage.registers
      flags := alike.storage.flags
      memory :=
        { size := alike.storage.memory.size
          get := fun address inFewer =>
            alike.storage.memory.get address (among address inFewer) } }
  counter := alike.counter
  clock := alike.clock

/-- A run that spares the cells in which two states differ goes on alike from both, and makes them
alike on the cells that it stores to. -/
theorem Alike.after_of_spares
    (alike : left.Alike (fun address => ¬ differing address) right)
    (spares : left.Spares program differing count) :
    (left.after program count).Alike
        (fun address =>
          differing address → left.Stored program count address)
        (right.after program count) ∧
      left.reports program count = right.reports program count ∧
      left.answers program count = right.answers program count := by
  induction count with
  | zero =>
      refine ⟨alike.mono ?_, rfl, rfl⟩
      intro address stored differs
      obtain ⟨write, member, -⟩ := stored differs
      cases member
  | succ count inductionHypothesis =>
      obtain ⟨before, sameEvents, sameAnswers⟩ :=
        inductionHypothesis (spares.of_le (Nat.le_succ count))
      obtain ⟨next, reported, answered⟩ :=
        before.step_growing fun address reads differs =>
          spares count (Nat.lt_succ_self count) address differs reads
      refine ⟨?_, ?_, ?_⟩
      · rw [after_add, after_add]
        apply next.mono
        intro address stored
        by_cases differs : differing address
        · exact (stored_succ (stored differs)).imp (fun early _ => early) id
        · exact Or.inl fun isDifferent => absurd isDifferent differs
      · rw [reports_add, reports_add, sameEvents]
        simp only [reports, reported]
      · rw [answers_add, answers_add, sameAnswers]
        simp only [answers, answered]

end State

/-! ## Two machines -/

namespace Machine

/-- After `count` steps two machines are in states that are alike on some cells, and their steps
were answered and reported alike. -/
structure SameCourse
    (cells : Word → Prop) (count : Nat) (left right : Machine) : Prop where
  state :
    (left.stepMany count).1.state.Alike cells (right.stepMany count).1.state
  answers : (left.stepMany count).2 = (right.stepMany count).2
  heard : left.heardStepping count = right.heardStepping count

/-- Two machines that run the same program from memories that differ in some cells take the same
course, step by step, as long as none of these cells is read before the run has stored to it. -/
theorem sameCourse_load_of_spares
    {program : Program} {left right : Machine}
    {differing : Word → Prop} {count : Nat}
    (sameSize : left.memory.size = right.memory.size)
    (agree :
      ∀ address, ¬ differing address →
        left.getCell address = right.getCell address)
    (spares : (left.load program).state.Spares program differing count) :
    ∀ earlier ≤ count,
      SameCourse
        (fun address =>
          differing address →
            (left.load program).state.Stored program earlier address)
        earlier (left.load program) (right.load program) := by
  intro earlier isEarlier
  have start :
      (left.load program).state.Alike (fun address => ¬ differing address)
        (right.load program).state :=
    ⟨⟨rfl, rfl, sameSize, agree⟩, rfl, rfl⟩
  obtain ⟨state, events, answers⟩ :=
    start.after_of_spares (spares.of_le isEarlier)
  refine ⟨?_, ?_, ?_⟩
  · rw [stepMany_eq, stepMany_eq]
    exact state
  · rw [stepMany_eq, stepMany_eq]
    exact answers
  · rw [heardStepping_eq_reports, heardStepping_eq_reports]
    exact events

/-- A cell that is stored to before it is read, and another one that is read as it was. -/
theorem sameCourse_load_of_spares_overwritten :
    let program : Program :=
      #[Instruction.store 0 0, Instruction.loadDirect 1 0,
        Instruction.loadImmediate 2 1, Instruction.loadIndirect 3 2,
        Instruction.halt]
    let left := ((create 4 2 .silent).setCell 0 7).setCell 1 4
    let right := ((create 4 2 .silent).setCell 0 9).setCell 1 4
    left.getCell 0 ≠ right.getCell 0 ∧
      (left.load program).state.Spares program (· = 0) 5 ∧
      (left.load program).heardStepping 5 =
        (right.load program).heardStepping 5 ∧
      ((left.load program).stepMany 5).1.getCell 0 =
        ((right.load program).stepMany 5).1.getCell 0 := by
  intro program left right
  have agree (address : Word) (same : ¬ address = 0) :
      left.getCell address = right.getCell address := by
    have other : ¬ (0 : Word) = address := fun zero => same zero.symm
    change Memory.get _ _ = Memory.get _ _
    simp only [left, right, setCell, Memory.get_set, other, false_and,
      if_false, Memory.size_set]
  have sameSize : left.memory.size = right.memory.size := rfl
  have spares :
      (left.load program).state.Spares program (· = 0) 5 := by
    intro earlier _ address isZero reads
    subst isZero
    cases earlier with
    | zero =>
        obtain ⟨instruction, fetched, isLoad, -⟩ := reads
        cases fetched
        cases isLoad
    | succ earlier =>
        -- The first instruction stores to the cell.
        exact ⟨⟨0, 0⟩, List.mem_append_left _ (by decide), rfl⟩
  have course :=
    sameCourse_load_of_spares sameSize agree spares 5 (Nat.le_refl 5)
  refine ⟨by decide, spares, course.heard, ?_⟩
  apply course.state.storage.memory.get
  intro _
  exact ⟨⟨0, 0⟩, List.mem_append_left _ (by decide), rfl⟩

end Machine

end RegisterMachine
