import Mathlib.Algebra.BigOperators.Group.Finset.Basic
import Mathlib.Order.Bounds.Defs
import RegisterMachine.Program.RunningSum
import RegisterMachine.Proofs.Run.Contract

/-!
# The running sum program

The loop adds the elements of the list until there are none left or an addition carries.  An element
outside the memory cannot be loaded, and the one before it is added again.
-/

namespace RegisterMachine.Program.RunningSum

open Instruction
open Leads
open RegisterFile (slot)

theorem slot_pointer : slot pointer = .ok 0 :=
  rfl

theorem slot_count : slot count = .ok 1 :=
  rfl

theorem slot_sum : slot sum = .ok 2 :=
  rfl

theorem slot_one : slot one = .ok 3 :=
  rfl

theorem slot_element : slot element = .ok 4 :=
  rfl

theorem slot_carried : slot carried = .ok 5 :=
  rfl

theorem slot_zero : slot zero = .ok 7 :=
  rfl

/-! ## Partial sums -/

section Sums

variable (memory : Memory) (first : Word)

/-- The element register after a number of rounds.  A load that faults keeps it. -/
def held : Nat → Word
  | 0 => 0
  | rounds + 1 =>
    memory.cells.getD ((first.toNat + rounds) % 2 ^ 32) (held rounds)

/-- The sum of the elements that a number of rounds adds, however large. -/
def total (rounds : Nat) : Nat :=
  ∑ index ∈ Finset.range rounds, (held memory first (index + 1)).toNat

theorem total_succ (rounds : Nat) :
    total memory first (rounds + 1) =
      total memory first rounds + (held memory first (rounds + 1)).toNat :=
  Finset.sum_range_succ _ rounds

theorem total_le_succ (rounds : Nat) :
    total memory first rounds ≤ total memory first (rounds + 1) := by
  rw [total_succ]
  exact Nat.le_add_right _ _

/-- The elements of a list inside the memory are its cells. -/
theorem getElem?_cells_eq_held
    {rounds : Nat}
    (inside : (first.toNat + rounds) % 2 ^ 32 < memory.size) :
    memory.cells[(first.toNat + rounds) % 2 ^ 32]? =
      some (held memory first (rounds + 1)) := by
  rw [held, Array.getD_eq_getD_getElem?, Array.getElem?_eq_getElem inside,
    Option.getD_some]

/-- What the loads of a number of rounds report. -/
def missingElements (rounds : Nat) : List Fault :=
  (List.range rounds).flatMap fun index =>
    memory.missing (UInt32.ofNat (first.toNat + index))

theorem missingElements_succ (rounds : Nat) :
    missingElements memory first (rounds + 1) =
      missingElements memory first rounds ++
        memory.missing (UInt32.ofNat (first.toNat + rounds)) := by
  simp [missingElements, List.range_succ, List.flatMap_append]

end Sums

/-! ## The loop -/

/-- What holds in the loop when the pointer has moved `moved` times and `added` elements have been
added.  The two differ inside a round only. -/
structure Progress (memory : Memory) (first : Word)
    (length moved added : Nat) (storage : Storage) : Prop where
  pointer_eq :
    storage.registers.get 0 = UInt32.ofNat (first.toNat + moved)
  count_eq : storage.registers.get 1 = UInt32.ofNat (length - moved)
  sum_eq :
    storage.registers.get 2 = UInt32.ofNat (total memory first added)
  one_eq : storage.registers.get 3 = 1
  element_eq : storage.registers.get 4 = held memory first added
  zero_eq : storage.registers.get 7 = 0
  carry_eq :
    storage.flags.get .carry = decide (2 ^ 32 ≤ total memory first added)
  memory_eq : storage.memory = memory

section Loop

variable {start length result first : Word} {memory : Memory}
variable {storage : Storage} {elements rounds : Nat} {clock : UInt64}

theorem loop_inside :
    loop.toNat < (runningSum start length result).size :=
  inside_of_fetched (getElem?_runningSum_loop start length result)

theorem done_inside :
    done.toNat < (runningSum start length result).size :=
  inside_of_fetched (getElem?_runningSum_done start length result)

theorem Progress.compare
    {added : Nat}
    (progress : Progress memory first elements rounds added storage)
    (bound : elements < 2 ^ 32) :
    (storage.registers.get 1 == storage.registers.get 7) =
      decide (elements - rounds = 0) := by
  rw [progress.count_eq, progress.zero_eq]
  exact Word.ofNat_beq_ofNat (by omega) (by decide)

theorem Progress.loaded
    (progress : Progress memory first elements rounds rounds storage) :
    storage.memory.cells.getD (storage.registers.get 0).toNat
        (storage.registers.get 4) =
      held memory first (rounds + 1) := by
  rw [progress.memory_eq, progress.pointer_eq, progress.element_eq,
    UInt32.toNat_ofNat', held]

theorem leads_addition
    (bound : elements < 2 ^ 32) (more : rounds < elements)
    (fits : total memory first rounds < 2 ^ 32)
    (progress : Progress memory first elements rounds rounds storage) :
    Leads (runningSum start length result) ⟨storage, loop, clock⟩
      (memory.missing (UInt32.ofNat (first.toNat + rounds)))
      11 6
      (fun tested =>
        Progress memory first elements rounds (rounds + 1) tested ∧
          tested.flags.get .zero =
            decide (2 ^ 32 ≤ total memory first (rounds + 1))) := by
  have different :
      (storage.registers.get 1 == storage.registers.get 7) = false := by
    rw [progress.compare bound]
    exact decide_eq_false (by omega)
  have reported :
      memory.missing (UInt32.ofNat (first.toNat + rounds)) =
        storage.memory.missing (storage.registers.get 0) ++ [] := by
    rw [progress.memory_eq, progress.pointer_eq, List.append_nil]
  have nextSum :
      UInt32.ofNat (total memory first rounds) +
          held memory first (rounds + 1) =
        UInt32.ofNat (total memory first (rounds + 1)) := by
    rw [total_succ, UInt32.ofNat_add, UInt32.ofNat_toNat]
  have carry :
      decide (2 ^ 32 ≤
          (UInt32.ofNat (total memory first rounds)).toNat +
            (held memory first (rounds + 1)).toNat) =
        decide (2 ^ 32 ≤ total memory first (rounds + 1)) := by
    rw [UInt32.toNat_ofNat_of_lt' fits, total_succ]
  rw [reported]
  refine next (execute_cmp slot_count slot_zero)
    (getElem?_runningSum_loop start length result) ?_
  refine next
    (execute_jmpIfEqual_of_different done_inside different) rfl ?_
  refine loadIndirect slot_element slot_pointer progress.loaded rfl ?_
  refine next (execute_add slot_sum slot_sum slot_element) rfl ?_
  refine next (execute_checkFlag slot_carried .carry) rfl ?_
  refine next (execute_cmp slot_carried slot_one) rfl ?_
  apply here
  refine ⟨⟨?_, ?_, ?_, ?_, ?_, ?_, ?_, ?_⟩, ?_⟩
  · simp [progress.pointer_eq]
  · simp [progress.count_eq]
  · simpa [progress.sum_eq] using nextSum
  · simp [progress.one_eq]
  · simp
  · simp [progress.zero_eq]
  · simpa [progress.sum_eq] using carry
  · simp [progress.memory_eq]
  · simpa [progress.sum_eq, progress.one_eq] using carry

/-- The rest of a round whose addition has not carried.  Both the pointer and the count are counted
on, and the carry flag is what the subtraction leaves. -/
theorem leads_advance
    (more : rounds < elements) (bound : elements < 2 ^ 32)
    (fits : total memory first (rounds + 1) < 2 ^ 32)
    (progress : Progress memory first elements rounds (rounds + 1) storage)
    (different : storage.flags.get .zero = false) :
    Leads (runningSum start length result) ⟨storage, 11, clock⟩ []
      loop 4
      (Progress memory first elements (rounds + 1) (rounds + 1)) := by
  have nextPointer :
      UInt32.ofNat (first.toNat + rounds) + 1 =
        UInt32.ofNat (first.toNat + (rounds + 1)) := by
    rw [← Nat.add_assoc, UInt32.ofNat_add (first.toNat + rounds) 1]
    rfl
  have nextCount :
      UInt32.ofNat (elements - rounds) - 1 =
        UInt32.ofNat (elements - (rounds + 1)) :=
    Word.ofNat_sub_one (by omega)
  have noBorrow :
      decide ((UInt32.ofNat (elements - rounds)).toNat < (1 : Word).toNat) =
        decide (2 ^ 32 ≤ total memory first (rounds + 1)) := by
    rw [UInt32.toNat_ofNat_of_lt' (by omega : elements - rounds < 2 ^ 32),
      decide_eq_decide]
    change elements - rounds < 1 ↔ _
    omega
  refine next
    (execute_jmpIfEqual_of_different done_inside different) rfl ?_
  refine next (execute_add slot_pointer slot_pointer slot_one) rfl ?_
  refine next (execute_sub slot_count slot_count slot_one) rfl ?_
  refine jump (execute_jmp loop_inside) rfl ?_
  apply here
  constructor
  · simpa [progress.pointer_eq, progress.one_eq] using nextPointer
  · simpa [progress.count_eq, progress.one_eq] using nextCount
  · simp [progress.sum_eq]
  · simp [progress.one_eq]
  · simp [progress.element_eq]
  · simp [progress.zero_eq]
  · simpa [progress.count_eq, progress.one_eq] using noBorrow
  · simp [progress.memory_eq]

/-- A whole round whose sum still fits, so that its addition does not carry. -/
theorem leads_round
    (bound : elements < 2 ^ 32) (more : rounds < elements)
    (fits : total memory first (rounds + 1) < 2 ^ 32)
    (progress : Progress memory first elements rounds rounds storage) :
    Leads (runningSum start length result) ⟨storage, loop, clock⟩
      (memory.missing (UInt32.ofNat (first.toNat + rounds)))
      loop 10 (Progress memory first elements (rounds + 1) (rounds + 1)) := by
  have fewerFit : total memory first rounds < 2 ^ 32 :=
    lt_of_le_of_lt (total_le_succ memory first rounds) fits
  have counted : 10 = 6 + 4 := rfl
  rw [← List.append_nil (memory.missing _), counted]
  apply (leads_addition bound more fewerFit progress).bind
  rintro tested clock ⟨added, carry⟩
  rw [decide_eq_false (Nat.not_le.mpr fits)] at carry
  exact leads_advance more bound fits added carry

theorem leads_rounds
    (bound : elements < 2 ^ 32) (rounds : Nat) (le : rounds ≤ elements)
    (fits : total memory first rounds < 2 ^ 32)
    (progress : Progress memory first elements 0 0 storage) :
    Leads (runningSum start length result) ⟨storage, loop, clock⟩
      (missingElements memory first rounds)
      loop (10 * rounds)
      (Progress memory first elements rounds rounds) := by
  induction rounds with
  | zero =>
      exact here progress
  | succ rounds inductionHypothesis =>
      have fewerFit : total memory first rounds < 2 ^ 32 :=
        lt_of_le_of_lt (total_le_succ memory first rounds) fits
      rw [missingElements_succ, Nat.mul_succ]
      exact (inductionHypothesis (by omega) fewerFit).bind
        fun middle _ reached => leads_round bound (by omega) fits reached

theorem leads_leave
    (bound : elements < 2 ^ 32)
    (progress : Progress memory first elements elements elements storage) :
    Leads (runningSum start length result) ⟨storage, loop, clock⟩ []
      done 2 (Progress memory first elements elements elements) := by
  have equal :
      (storage.registers.get 1 == storage.registers.get 7) = true := by
    rw [progress.compare bound]
    exact decide_eq_true (Nat.sub_self elements)
  refine next (execute_cmp slot_count slot_zero)
    (getElem?_runningSum_loop start length result) ?_
  refine jump (execute_jmpIfEqual_of_equal done_inside equal) rfl ?_
  apply here
  constructor
  · simp [progress.pointer_eq]
  · simp [progress.count_eq]
  · simp [progress.sum_eq]
  · simp [progress.one_eq]
  · simp [progress.element_eq]
  · simp [progress.zero_eq]
  · simp [progress.carry_eq]
  · simp [progress.memory_eq]

/-- A round whose addition carries. -/
theorem leads_break
    (bound : elements < 2 ^ 32) (more : rounds < elements)
    (fits : total memory first rounds < 2 ^ 32)
    (carries : 2 ^ 32 ≤ total memory first (rounds + 1))
    (progress : Progress memory first elements rounds rounds storage) :
    Leads (runningSum start length result) ⟨storage, loop, clock⟩
      (memory.missing (UInt32.ofNat (first.toNat + rounds)))
      done 7 (Progress memory first elements rounds (rounds + 1)) := by
  have counted : 7 = 6 + 1 := rfl
  rw [← List.append_nil (memory.missing _), counted]
  apply (leads_addition bound more fits progress).bind
  rintro tested clock ⟨added, carry⟩
  rw [decide_eq_true carries] at carry
  refine jump (execute_jmpIfEqual_of_equal done_inside carry) rfl ?_
  exact here added

end Loop

/-! ## The whole run -/

section Run

variable (start length result : Word) (memory : Memory)

theorem leads_setup :
    Leads (runningSum start length result) (State.start memory)
      (memory.missing start ++ memory.missing length) loop 5
      (Progress memory (memory.get start) (memory.get length).toNat 0 0) := by
  rw [← List.append_nil (memory.missing length)]
  refine loadDirect slot_pointer rfl (by simp) ?_
  refine loadDirect slot_count rfl (by simp) ?_
  refine next (execute_loadImmediate slot_sum 0) rfl ?_
  refine next (execute_loadImmediate slot_one 1) rfl ?_
  refine next (execute_loadImmediate slot_zero 0) rfl ?_
  apply here
  constructor
  · simp
  · simp
  · simp [total]
  · simp
  · simp [held]
  · simp
  · simp [total]
  · simp

variable {start length result memory} in
theorem leads_finish
    {storage : Storage} {first : Word} {elements moved added : Nat}
    {carry : Bool} {clock : UInt64}
    (progress : Progress memory first elements moved added storage)
    (carry_eq : decide (2 ^ 32 ≤ total memory first added) = carry) :
    Leads (runningSum start length result) ⟨storage, done, clock⟩
      (memory.missing result) 17 2
      (fun final =>
        final.memory =
            memory.set result (UInt32.ofNat (total memory first added)) ∧
          final.flags.get .carry = carry) := by
  rw [← List.append_nil (memory.missing result), ← progress.memory_eq]
  refine store slot_sum (getElem?_runningSum_done start length result) ?_
  apply halt rfl
  rw [progress.memory_eq]
  constructor
  · simp [progress.sum_eq, progress.memory_eq]
  · exact progress.carry_eq.trans carry_eq

/-- The run over a list whose sum fits in a word. -/
theorem leads_of_fits
    (fits :
      total memory (memory.get start) (memory.get length).toNat < 2 ^ 32) :
    Leads (runningSum start length result) (State.start memory)
      (memory.missing start ++ memory.missing length ++
        (missingElements memory (memory.get start)
            (memory.get length).toNat ++
          memory.missing result))
      17 (10 * (memory.get length).toNat + 9)
      (fun final =>
        final.memory =
            memory.set result
              (UInt32.ofNat
                (total memory (memory.get start) (memory.get length).toNat)) ∧
          final.flags.get .carry = false) := by
  have bound : (memory.get length).toNat < 2 ^ 32 := UInt32.toNat_lt _
  have counted :
      10 * (memory.get length).toNat + 9 =
        5 + (10 * (memory.get length).toNat + (2 + 2)) := by
    omega
  rw [counted]
  apply (leads_setup start length result memory).bind
  intro storage clock entry
  apply (leads_rounds bound _ le_rfl fits entry).bind
  intro last clock reached
  rw [← List.nil_append (memory.missing result)]
  apply (leads_leave bound reached).bind
  intro exit clock progress
  exact leads_finish progress (decide_eq_false (Nat.not_le.mpr fits))

/-- The run over a list whose sum carries at the element `rounds`. -/
theorem leads_of_carry
    {rounds : Nat} (more : rounds < (memory.get length).toNat)
    (fits : total memory (memory.get start) rounds < 2 ^ 32)
    (carries : 2 ^ 32 ≤ total memory (memory.get start) (rounds + 1)) :
    Leads (runningSum start length result) (State.start memory)
      (memory.missing start ++ memory.missing length ++
        (missingElements memory (memory.get start) (rounds + 1) ++
          memory.missing result))
      17 (10 * (rounds + 1) + 4)
      (fun final =>
        final.memory =
            memory.set result
              (UInt32.ofNat (total memory (memory.get start) (rounds + 1))) ∧
          final.flags.get .carry = true) := by
  have bound : (memory.get length).toNat < 2 ^ 32 := UInt32.toNat_lt _
  have counted : 10 * (rounds + 1) + 4 = 5 + (10 * rounds + (7 + 2)) := by
    omega
  rw [counted, missingElements_succ, List.append_assoc (missingElements _ _ _)]
  apply (leads_setup start length result memory).bind
  intro storage clock entry
  apply (leads_rounds bound rounds more.le fits entry).bind
  intro last clock reached
  apply (leads_break bound more fits carries reached).bind
  intro exit clock progress
  exact leads_finish progress (decide_eq_true carries)

end Run

/-- The first partial sum that carries is the last one that a run reaches. -/
theorem exists_isLeast_carry
    {memory : Memory} {first : Word} {elements : Nat}
    (carries : 2 ^ 32 ≤ total memory first elements) :
    ∃ rounds,
      rounds < elements ∧
        total memory first rounds < 2 ^ 32 ∧
        IsLeast {rounds | 2 ^ 32 ≤ total memory first rounds}
          (rounds + 1) := by
  have some_carry : ∃ rounds, 2 ^ 32 ≤ total memory first rounds :=
    ⟨elements, carries⟩
  obtain ⟨least, least_eq⟩ : ∃ least, Nat.find some_carry = least :=
    ⟨_, rfl⟩
  have leastCarries : 2 ^ 32 ≤ total memory first least := by
    rw [← least_eq]
    exact Nat.find_spec some_carry
  have least_le :
      ∀ rounds, 2 ^ 32 ≤ total memory first rounds → least ≤ rounds := by
    intro rounds roundsCarry
    rw [← least_eq]
    exact Nat.find_min' some_carry roundsCarry
  cases least with
  | zero =>
      change 2 ^ 32 ≤ 0 at leastCarries
      omega
  | succ rounds =>
      have fits : total memory first rounds < 2 ^ 32 := by
        by_contra roundsCarry
        have le := least_le rounds (Nat.not_lt.mp roundsCarry)
        omega
      exact ⟨rounds, least_le elements carries, fits, leastCarries, least_le⟩

theorem haltsAfter_runningSum
    (machine : Machine) (start length result : Word) :
    let memory := machine.memory
    let first := machine.getCell start
    let elements := (machine.getCell length).toNat
    (first.toNat + elements ≤ memory.size →
        ∀ index < elements,
          memory.cells[(first.toNat + index) % 2 ^ 32]? =
            some (held memory first (index + 1))) ∧
      (total memory first elements < 2 ^ 32 →
        ∃ final,
          (machine.load (runningSum start length result)).HaltsAfter
              (10 * elements + 9) final ∧
            final.memory =
              memory.set result (UInt32.ofNat (total memory first elements)) ∧
            (memory.size ≤ result.toNat → final.memory = memory) ∧
            final.state.flags.get .carry = false) ∧
      (2 ^ 32 ≤ total memory first elements →
        ∃ least,
          IsLeast {rounds | 2 ^ 32 ≤ total memory first rounds} least ∧
            total memory first least - 2 ^ 32 < 2 ^ 32 ∧
            ∃ final,
              (machine.load (runningSum start length result)).HaltsAfter
                  (10 * least + 4) final ∧
                final.memory =
                  memory.set result
                    (UInt32.ofNat (total memory first least - 2 ^ 32)) ∧
                (memory.size ≤ result.toNat → final.memory = memory) ∧
                final.state.flags.get .carry = true) := by
  intro memory first elements
  have programFits : (runningSum start length result).size < 2 ^ 32 := by
    change 17 < 2 ^ 32
    omega
  refine ⟨?_, ?_, ?_⟩
  · intro inside index inList
    apply getElem?_cells_eq_held
    exact lt_of_le_of_lt (Nat.mod_le _ _) (by omega)
  · intro fits
    have lead := leads_of_fits start length result memory fits
    obtain ⟨final, halts, -, stored, carry⟩ :=
      lead.haltsAfter_load programFits
    refine ⟨final, halts, stored, ?_, carry⟩
    intro outside
    exact stored.trans (Memory.set_of_size_le outside _)
  · intro carries
    obtain ⟨rounds, more, fits, least⟩ := exists_isLeast_carry carries
    have lead :=
      leads_of_carry start length result memory more fits least.1
    obtain ⟨final, halts, -, stored, carry⟩ :=
      lead.haltsAfter_load programFits
    have addendBound := (held memory first (rounds + 1)).toNat_lt
    have sum_eq := total_succ memory first rounds
    refine ⟨rounds + 1, least, by omega, final, halts, ?_, ?_, carry⟩
    · rw [Word.ofNat_sub_size least.1]
      exact stored
    · intro outside
      exact stored.trans (Memory.set_of_size_le outside _)

end RegisterMachine.Program.RunningSum
