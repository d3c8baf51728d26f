import Mathlib.Tactic.IntervalCases
import RegisterMachine.Proofs.Program.Factorial
import RegisterMachine.Proofs.Program.Fibonacci
import RegisterMachine.Proofs.Program.RunningSum
import RegisterMachine.Proofs.Run.Locality

/-!
# The memory that the programs touch

The factorial and the Fibonacci program name the cells that they access in their instructions.  The
running sum also follows a pointer.  An assertion at each of its addresses says how far the pointer
has moved and how many elements are left, so that it points into the list whenever it is used.
-/

namespace RegisterMachine

/-- A run accesses only cells that the instructions of its program name. -/
theorem State.within_of_named
    {program : Program} {cells : Word → Prop} (state : State)
    (named :
      ∀ instruction ∈ program, ∀ registers address,
        instruction.address? registers = some address → cells address) :
    state.Within program cells := by
  intro count address accesses
  obtain ⟨instruction, fetched, accessed⟩ := accesses
  have member := Array.mem_of_getElem? fetched
  exact named instruction member _ address accessed

/-- One instruction that leads somewhere is one step. -/
theorem Leads.of_step
    {program : Program} {source : State} {faults : List Fault}
    {counter : Word} {post : Storage → Prop}
    (lead : Leads program source faults counter 1 post) :
    (source.step program).state.counter = counter ∧
      post (source.step program).state.toStorage := by
  obtain ⟨storage, clock, path, holds⟩ := lead
  have reached := path.after
  rw [State.after, State.after] at reached
  rw [reached]
  exact ⟨rfl, holds⟩

/-! ## The cell that an instruction names -/

namespace Instruction

variable (registers : RegisterFile) (dst left right cell : Word)

@[simp] theorem address?_loadDirect :
    (loadDirect dst cell).address? registers = some cell :=
  rfl

@[simp] theorem address?_loadImmediate :
    (loadImmediate dst cell).address? registers = none :=
  rfl

variable {left} in
theorem address?_loadIndirect
    {first : Register} (firstSlot : RegisterFile.slot left = .ok first) :
    (loadIndirect dst left).address? registers =
      some (registers.get first) := by
  simp [address?, loadIndirect, load, AddressingMode.code,
    RegisterFile.lt_of_slot firstSlot,
    RegisterFile.valueAt_of_slot registers firstSlot]

@[simp] theorem address?_store :
    (store cell left).address? registers = some cell :=
  rfl

@[simp] theorem address?_add : (add dst left right).address? registers = none :=
  rfl

@[simp] theorem address?_sub : (sub dst left right).address? registers = none :=
  rfl

@[simp] theorem address?_mul : (mul dst left right).address? registers = none :=
  rfl

@[simp] theorem address?_cmp :
    (Instruction.cmp left right).address? registers = none :=
  rfl

@[simp] theorem address?_jmp : (jmp dst).address? registers = none :=
  rfl

@[simp] theorem address?_jmpIfEqual :
    (jmpIfEqual dst).address? registers = none :=
  rfl

@[simp] theorem address?_mov : (mov dst left).address? registers = none :=
  rfl

@[simp] theorem address?_checkFlag (flag : Flag) :
    (checkFlag dst flag).address? registers = none :=
  rfl

@[simp] theorem address?_halt : halt.address? registers = none :=
  rfl

end Instruction

namespace Program

open Instruction

theorem within_fibonacci (source result : Word) (state : State) :
    state.Within (fibonacci source result)
      (fun address => address = source ∨ address = result) := by
  refine state.within_of_named ?_
  simp [fibonacci, eq_comm]

theorem within_factorial (input result : Word) (state : State) :
    state.Within (factorial input result)
      (fun address => address = input ∨ address = result) := by
  refine state.within_of_named ?_
  simp [factorial, eq_comm]

namespace RunningSum

open Leads
open RegisterFile (slot)

/-- The pointer has moved over `moved` elements, and `counted` elements have been counted off. -/
structure Cursor (first length : Word) (moved counted : Nat)
    (storage : Storage) : Prop where
  pointer_eq : storage.registers.get 0 = first + UInt32.ofNat moved
  count_eq :
    storage.registers.get 1 = UInt32.ofNat (length.toNat - counted)
  one_eq : storage.registers.get 3 = 1
  zero_eq : storage.registers.get 7 = 0

section Assertions

variable (start length : Word) (memory : Memory)

/-- What holds before the instruction at an address. -/
def assertion (address : Nat) (storage : Storage) : Prop :=
  let first := memory.get start
  let elements := memory.get length
  match address with
  | 0 => storage.registers = .clear ∧ storage.memory = memory
  | 1 =>
    storage.registers.get 0 = first ∧ storage.registers.get 1 = 0 ∧
      storage.memory = memory
  | 2 | 3 =>
    storage.registers.get 0 = first ∧ storage.registers.get 1 = elements
  | 4 =>
    storage.registers.get 0 = first ∧ storage.registers.get 1 = elements ∧
      storage.registers.get 3 = 1
  | 5 | 14 =>
    ∃ moved ≤ elements.toNat, Cursor first elements moved moved storage
  | 6 =>
    ∃ moved ≤ elements.toNat,
      Cursor first elements moved moved storage ∧
        (storage.flags.get .zero = false → moved < elements.toNat)
  | 7 | 8 | 9 | 10 | 11 | 12 =>
    ∃ moved < elements.toNat, Cursor first elements moved moved storage
  | 13 =>
    ∃ moved < elements.toNat,
      Cursor first elements (moved + 1) moved storage
  | _ => True

end Assertions

section Steps

variable {start length result : Word} {memory : Memory} {storage : Storage}

theorem Cursor.of_registers
    {first elements : Word} {moved counted : Nat} {later : Storage}
    (cursor : Cursor first elements moved counted storage)
    (kept :
      ∀ register ∈ ([0, 1, 3, 7] : List Register),
        later.registers.get register = storage.registers.get register) :
    Cursor first elements moved counted later where
  pointer_eq := (kept 0 (by decide)).trans cursor.pointer_eq
  count_eq := (kept 1 (by decide)).trans cursor.count_eq
  one_eq := (kept 3 (by decide)).trans cursor.one_eq
  zero_eq := (kept 7 (by decide)).trans cursor.zero_eq

variable (start length result memory) in
/-- One instruction leads from an address to the assertion of the next. -/
def Advances (address : Nat) (storage : Storage) : Prop :=
  ∀ clock, ∃ faults next,
    next < 2 ^ 32 ∧
      Leads (runningSum start length result)
        ⟨storage, UInt32.ofNat address, clock⟩ faults
        (UInt32.ofNat next) 1 (assertion start length memory next)

/-- Both tests leave the loop for the same address. -/
theorem advances_jmpIfEqual
    {address : Nat} (small : address + 1 < 2 ^ 32)
    (fetched :
      (runningSum start length result)[(UInt32.ofNat address).toNat]? =
        some (jmpIfEqual done))
    (passes :
      storage.flags.get .zero = false →
        assertion start length memory (address + 1) storage) :
    Advances start length result memory address storage := by
  intro clock
  have inside : done.toNat < (runningSum start length result).size :=
    done_inside
  cases test : storage.flags.get .zero with
  | true =>
      have jumped := execute_jmpIfEqual_of_equal inside test
      exact ⟨_, 15, by decide, jump jumped fetched (here trivial)⟩
  | false =>
      have passed := execute_jmpIfEqual_of_different inside test
      have following : UInt32.ofNat address + 1 = UInt32.ofNat (address + 1) :=
        (UInt32.ofNat_add address 1).symm
      refine ⟨[], address + 1, small, next passed fetched ?_⟩
      rw [following]
      exact here (passes test)

theorem advances_setup
    {address : Nat} (inSetup : address < 5)
    (holds : assertion start length memory address storage) :
    Advances start length result memory address storage := by
  intro clock
  match address with
  | 0 =>
      obtain ⟨cleared, rfl⟩ := holds
      refine ⟨_, 1, by decide, loadDirect slot_pointer rfl ?_ (here ?_)⟩
      · rw [cleared, RegisterFile.get_clear]
      · simp [assertion, cleared]
  | 1 =>
      obtain ⟨first_eq, unset, rfl⟩ := holds
      refine ⟨_, 2, by decide, loadDirect slot_count rfl unset (here ?_)⟩
      simp [assertion, first_eq]
  | 2 =>
      obtain ⟨first_eq, elements_eq⟩ := holds
      refine
        ⟨_, 3, by decide, next (execute_loadImmediate slot_sum 0) rfl (here ?_)⟩
      simp [assertion, first_eq, elements_eq]
  | 3 =>
      obtain ⟨first_eq, elements_eq⟩ := holds
      refine
        ⟨_, 4, by decide, next (execute_loadImmediate slot_one 1) rfl (here ?_)⟩
      simp [assertion, first_eq, elements_eq]
  | 4 =>
      obtain ⟨first_eq, elements_eq, one_eq⟩ := holds
      refine
        ⟨_, 5, by decide, next (execute_loadImmediate slot_zero 0) rfl (here ?_)⟩
      refine ⟨0, Nat.zero_le _, ?_, ?_, ?_, ?_⟩
      · simp [first_eq]
      · simp [elements_eq]
      · simp [one_eq]
      · simp

theorem advances_test
    (holds : assertion start length memory 5 storage) :
    Advances start length result memory 5 storage := by
  intro clock
  obtain ⟨moved, bound, cursor⟩ := holds
  have small : (memory.get length).toNat - moved < 2 ^ 32 := by
    have := (memory.get length).toNat_lt
    omega
  refine
    ⟨_, 6, by decide, next (execute_cmp slot_count slot_zero) rfl (here ?_)⟩
  refine ⟨moved, bound, cursor.of_registers fun _ _ => rfl, ?_⟩
  intro different
  rw [Storage.get_flags_setFlag, if_pos rfl, cursor.count_eq,
    cursor.zero_eq, Word.beq_zero, UInt32.toNat_ofNat_of_lt' small] at different
  have someLeft := of_decide_eq_false different
  omega

theorem advances_addition
    {address : Nat} (behindTest : 7 ≤ address) (inAddition : address < 12)
    (holds : assertion start length memory address storage) :
    Advances start length result memory address storage := by
  intro clock
  match address with
  | 7 =>
      obtain ⟨moved, bound, cursor⟩ := holds
      refine
        ⟨_, 8, by decide,
          loadIndirect slot_element slot_pointer rfl rfl (here ?_)⟩
      exact ⟨moved, bound, cursor.of_registers (by simp)⟩
  | 8 =>
      obtain ⟨moved, bound, cursor⟩ := holds
      refine
        ⟨_, 9, by decide,
          next (execute_add slot_sum slot_sum slot_element) rfl (here ?_)⟩
      exact ⟨moved, bound, cursor.of_registers (by simp)⟩
  | 9 =>
      obtain ⟨moved, bound, cursor⟩ := holds
      refine
        ⟨_, 10, by decide,
          next (execute_checkFlag slot_carried .carry) rfl (here ?_)⟩
      exact ⟨moved, bound, cursor.of_registers (by simp)⟩
  | 10 =>
      obtain ⟨moved, bound, cursor⟩ := holds
      refine
        ⟨_, 11, by decide,
          next (execute_cmp slot_carried slot_one) rfl (here ?_)⟩
      exact ⟨moved, bound, cursor.of_registers fun _ _ => rfl⟩
  | 11 =>
      have fetched :
          (runningSum start length result)[(UInt32.ofNat 11).toNat]? = some _ :=
        rfl
      exact advances_jmpIfEqual (by decide) fetched (fun _ => holds) clock

theorem advances_counting
    {address : Nat} (behindAddition : 12 ≤ address) (inProgram : address < 17)
    (holds : assertion start length memory address storage) :
    Advances start length result memory address storage := by
  intro clock
  match address with
  | 12 =>
      obtain ⟨moved, bound, cursor⟩ := holds
      refine
        ⟨_, 13, by decide,
          next (execute_add slot_pointer slot_pointer slot_one) rfl (here ?_)⟩
      refine ⟨moved, bound, ?_, ?_, ?_, ?_⟩
      · simp [cursor.pointer_eq, cursor.one_eq, UInt32.add_assoc]
      · simp [cursor.count_eq]
      · simp [cursor.one_eq]
      · simp [cursor.zero_eq]
  | 13 =>
      obtain ⟨moved, bound, cursor⟩ := holds
      have counted :
          UInt32.ofNat ((memory.get length).toNat - moved) - 1 =
            UInt32.ofNat ((memory.get length).toNat - (moved + 1)) :=
        Word.ofNat_sub_one (by omega)
      refine
        ⟨_, 14, by decide,
          next (execute_sub slot_count slot_count slot_one) rfl (here ?_)⟩
      refine ⟨moved + 1, bound, ?_, ?_, ?_, ?_⟩
      · simp [cursor.pointer_eq]
      · simpa [cursor.count_eq, cursor.one_eq] using counted
      · simp [cursor.one_eq]
      · simp [cursor.zero_eq]
  | 14 =>
      exact ⟨_, 5, by decide, jump (execute_jmp loop_inside) rfl (here holds)⟩
  | 15 => exact ⟨_, 16, by decide, Leads.store slot_sum rfl (here trivial)⟩
  | 16 => exact ⟨_, 17, by decide, Leads.halt rfl trivial⟩
  | beyond + 17 => omega

/-- Each instruction leads from its assertion to the assertion of the next. -/
theorem advances_of_assertion
    {address : Nat} (inProgram : address < 17)
    (holds : assertion start length memory address storage) :
    Advances start length result memory address storage := by
  rcases Nat.lt_or_ge address 5 with inSetup | behindSetup
  · exact advances_setup inSetup holds
  rcases Nat.lt_or_ge address 12 with inAddition | behindAddition
  · rcases Nat.lt_or_ge address 7 with inTest | behindTest
    · obtain rfl | rfl : address = 5 ∨ address = 6 := by omega
      · exact advances_test holds
      · have fetched :
            (runningSum start length result)[(UInt32.ofNat 6).toNat]? = some _ :=
          rfl
        obtain ⟨moved, bound, cursor, more⟩ := holds
        exact advances_jmpIfEqual (by decide) fetched
          fun different => ⟨moved, more different, cursor⟩
    · exact advances_addition behindTest inAddition holds
  · exact advances_counting behindAddition inProgram holds

/-- Only the load at address 7 follows a pointer. -/
theorem cell_of_accessed
    {address : Nat} {instruction : Instruction} {cell : Word}
    {registers : RegisterFile}
    (fetched : (runningSum start length result)[address]? = some instruction)
    (accessed : instruction.address? registers = some cell) :
    (cell = start ∨ cell = length ∨ cell = result) ∨
      (address = 7 ∧ cell = registers.get 0) := by
  have inside : address < 17 := (Array.getElem?_eq_some_iff.mp fetched).1
  have followed :=
    address?_loadIndirect registers element slot_pointer
  interval_cases address <;> cases fetched <;> simp_all [runningSum]

end Steps

section Run

variable (start length result : Word) (memory : Memory)

/-- The cells that a running sum accesses: the three that it names, and the elements. -/
def cells (address : Word) : Prop :=
  (address = start ∨ address = length ∨ address = result) ∨
    ∃ index < (memory.get length).toNat,
      address = memory.get start + UInt32.ofNat index

theorem within_runningSum :
    (State.start memory).Within (runningSum start length result)
      (cells start length result memory) := by
  let invariant (state : State) : Prop :=
    assertion start length memory state.counter.toNat state.toStorage
  refine State.within_of_invariant invariant ?_ ?_ ?_
  · exact ⟨rfl, rfl⟩
  · intro state holds running
    have inProgram : state.counter.toNat < 17 := Nat.not_le.mp running
    obtain ⟨faults, next, small, lead⟩ :=
      advances_of_assertion inProgram holds state.clock
    rw [UInt32.ofNat_toNat] at lead
    obtain ⟨counter_eq, holdsNext⟩ := Leads.of_step lead
    change assertion start length memory
      (state.step (runningSum start length result)).state.counter.toNat _
    rw [counter_eq, UInt32.toNat_ofNat_of_lt' small]
    exact holdsNext
  · rintro state address holds ⟨instruction, fetched, accessed⟩
    rcases cell_of_accessed fetched accessed with named | ⟨atLoad, followed⟩
    · exact Or.inl named
    · change assertion start length memory state.counter.toNat _ at holds
      rw [atLoad] at holds
      obtain ⟨moved, bound, cursor⟩ := holds
      exact Or.inr ⟨moved, bound, followed.trans cursor.pointer_eq⟩

end Run

end RunningSum

end Program

end RegisterMachine
