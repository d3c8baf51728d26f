import Mathlib.Algebra.Group.Nat.Defs
import RegisterMachine.Demo.Basic

/-!
# The memory of the demos

Each demo has its own cells, which it fills before it runs.  No two demos share a cell, and a memory
that is large enough for a choice of demos has all cells of each of them.
-/

namespace RegisterMachine

namespace Machine

variable (machine : Machine)

theorem size_memory_setCells (cells : List (Word × Word)) :
    (machine.setCells cells).memory.size = machine.memory.size := by
  induction cells generalizing machine with
  | nil => rfl
  | cons cell cells inductionHypothesis =>
      exact
        (inductionHypothesis (machine.setCell cell.1 cell.2)).trans
          (Memory.size_set machine.memory cell.1 cell.2)

variable {machine} {cells : List (Word × Word)} {address value : Word}

theorem getCell_setCells_of_unwritten
    (unwritten : ∀ cell ∈ cells, cell.1 ≠ address) :
    (machine.setCells cells).getCell address = machine.getCell address := by
  induction cells generalizing machine with
  | nil => rfl
  | cons cell cells inductionHypothesis =>
      have different : cell.1 ≠ address := unwritten cell List.mem_cons_self
      have later :
          ((machine.setCell cell.1 cell.2).setCells cells).getCell address =
            (machine.setCell cell.1 cell.2).getCell address :=
        inductionHypothesis fun other member =>
          unwritten other (List.mem_cons_of_mem cell member)
      have unchanged :
          (machine.setCell cell.1 cell.2).getCell address =
            machine.getCell address :=
        (Memory.get_set machine.memory cell.1 address cell.2).trans
          (if_neg fun hit => different hit.1)
      exact later.trans unchanged

theorem getCell_setCells_of_mem
    (inside : address.toNat < machine.memory.size)
    (written : (address, value) ∈ cells)
    (agreed : ∀ cell ∈ cells, cell.1 = address → cell.2 = value) :
    (machine.setCells cells).getCell address = value := by
  induction cells generalizing machine with
  | nil => cases written
  | cons cell cells inductionHypothesis =>
      have insideLater :
          address.toNat < (machine.setCell cell.1 cell.2).memory.size := by
        rw [memory, setCell, Memory.size_set]
        exact inside
      by_cases again : (address, value) ∈ cells
      · exact inductionHypothesis insideLater again
          fun other member => agreed other (List.mem_cons_of_mem cell member)
      · -- Later writes to the cell would write the value again, so there are none.
        have last :
            ((machine.setCell cell.1 cell.2).setCells cells).getCell address =
              (machine.setCell cell.1 cell.2).getCell address := by
          apply getCell_setCells_of_unwritten
          intro other member same
          have sameValue :=
            agreed other (List.mem_cons_of_mem cell member) same
          apply again
          rw [← same, ← sameValue]
          exact member
        rcases List.mem_cons.mp written with isHead | member
        · subst isHead
          refine last.trans ?_
          rw [getCell, setCell, Memory.get_set]
          exact if_pos ⟨rfl, inside⟩
        · exact absurd member again

theorem setCells_append
    (machine : Machine) (earlier later : List (Word × Word)) :
    machine.setCells (earlier ++ later) =
      (machine.setCells earlier).setCells later :=
  List.foldl_append

/-- The last write to a cell is the one that counts. -/
theorem getCell_setCells_of_last
    {later : List (Word × Word)}
    (inside : address.toNat < machine.memory.size)
    (last : ∀ cell ∈ later, cell.1 ≠ address)
    (earlier : List (Word × Word)) (value : Word) :
    (machine.setCells (earlier ++ (address, value) :: later)).getCell address =
      value := by
  have insideThen :
      address.toNat < (machine.setCells earlier).memory.size := by
    rw [size_memory_setCells]
    exact inside
  rw [setCells_append]
  refine (getCell_setCells_of_unwritten last).trans ?_
  exact
    (Memory.get_set (machine.setCells earlier).memory address address
      value).trans (if_pos ⟨rfl, insideThen⟩)

/-- Writes outside the memory have no effect. -/
theorem setCells_filter (machine : Machine) (cells : List (Word × Word)) :
    machine.setCells
        (cells.filter fun cell => cell.1.toNat < machine.memory.size) =
      machine.setCells cells := by
  induction cells generalizing machine with
  | nil => rfl
  | cons cell cells inductionHypothesis =>
      have size_eq :
          (machine.setCell cell.1 cell.2).memory.size = machine.memory.size :=
        Memory.size_set machine.memory cell.1 cell.2
      have rest := inductionHypothesis (machine.setCell cell.1 cell.2)
      rw [size_eq] at rest
      by_cases inside : cell.1.toNat < machine.memory.size
      · rw [List.filter_cons_of_pos (by simpa using inside)]
        exact rest
      · have unchanged : machine.setCell cell.1 cell.2 = machine :=
          congrArg (fun memory : Memory => { machine with state.memory := memory })
            (Memory.set_of_size_le (Nat.not_lt.mp inside) cell.2)
        rw [unchanged] at rest
        rw [List.filter_cons_of_neg (by simpa using inside), rest]
        exact congrArg (fun same : Machine => same.setCells cells) unchanged.symm

end Machine

namespace Demo

/-- The cells of a demo, for a list of `listLength` elements. -/
def Uses (listLength : Nat) (demo : Demo) (address : Word) : Prop :=
  match demo with
  | fibonacci => address = 100 ∨ address = 101
  | factorial => address = 200 ∨ address = 201
  | sum =>
    address = 300 ∨ address = 301 ∨ address = 302 ∨
      (400 ≤ address.toNat ∧ address.toNat < 400 + listLength)

instance (listLength : Nat) (demo : Demo) (address : Word) :
    Decidable (demo.Uses listLength address) :=
  match demo with
  | fibonacci => inferInstanceAs (Decidable (_ ∨ _))
  | factorial => inferInstanceAs (Decidable (_ ∨ _))
  | sum => inferInstanceAs (Decidable (_ ∨ _ ∨ _ ∨ (_ ∧ _)))

/-- The hundreds of an address tell whose cell it is. -/
def hundreds : Demo → Nat
  | fibonacci => 1
  | factorial => 2
  | sum => 3

theorem hundreds_injective : Function.Injective hundreds := by
  intro left right same
  cases left <;> cases right <;> trivial

theorem Uses.hundreds_eq
    {listLength : Nat} {demo : Demo} {address : Word}
    (uses : demo.Uses listLength address) :
    min (address.toNat / 100) 3 = demo.hundreds := by
  cases demo with
  | fibonacci => rcases uses with rfl | rfl <;> rfl
  | factorial => rcases uses with rfl | rfl <;> rfl
  | sum =>
      rcases uses with rfl | rfl | rfl | inList
      · rfl
      · rfl
      · rfl
      · change min (address.toNat / 100) 3 = 3
        omega

theorem Uses.unique
    {listLength : Nat} {left right : Demo} {address : Word}
    (leftUses : left.Uses listLength address)
    (rightUses : right.Uses listLength address) :
    left = right := by
  apply hundreds_injective
  rw [← leftUses.hundreds_eq, ← rightUses.hundreds_eq]

/-- A memory of `size` cells has all cells of the demo, and addresses reach them. -/
structure Room (inputs : Inputs) (demo : Demo) (size : Nat) : Prop where
  enough : (Choice.only demo).requiredCells inputs.list.length ≤ size
  addressable : size ≤ 2 ^ 32

section Cells

variable {inputs : Inputs} {demo : Demo} {size : Nat}
variable {address value : Word}

theorem requiredCells_all (listLength : Nat) :
    Choice.all.requiredCells listLength = max (400 + listLength) 303 :=
  rfl

theorem requiredCells_only_le_all (demo : Demo) (listLength : Nat) :
    (Choice.only demo).requiredCells listLength ≤
      Choice.all.requiredCells listLength := by
  rw [requiredCells_all]
  cases demo with
  | fibonacci =>
      change 102 ≤ _
      omega
  | factorial =>
      change 202 ≤ _
      omega
  | sum => exact Nat.le_refl _

theorem requiredCells_le_of_checkMemory
    {choice : Choice} {listLength : Nat}
    (accepted : checkMemory size choice listLength = .ok ()) :
    choice.requiredCells listLength ≤ size := by
  apply Decidable.byContradiction
  intro short
  have refused : checkMemory size choice listLength = .error _ :=
    if_pos (Nat.not_le.mp short)
  rw [refused] at accepted
  cases accepted

theorem Room.of_checkMemory
    {choice : Choice}
    (accepted : checkMemory size choice inputs.list.length = .ok ())
    (addressable : size ≤ 2 ^ 32)
    (member : demo ∈ choice.demos) :
    demo.Room inputs size := by
  have enough := requiredCells_le_of_checkMemory accepted
  refine ⟨?_, addressable⟩
  cases choice with
  | only chosen =>
      rw [Choice.demos, List.mem_singleton] at member
      rw [member]
      exact enough
  | all => exact Nat.le_trans (requiredCells_only_le_all demo _) enough

theorem Room.sum_le (room : Room inputs .sum size) :
    400 + inputs.list.length ≤ size ∧ 303 ≤ size := by
  have enough : max (400 + inputs.list.length) 303 ≤ size := room.enough
  omega

theorem Room.lt
    (room : demo.Room inputs size)
    (uses : demo.Uses inputs.list.length address) :
    address.toNat < size := by
  cases demo with
  | fibonacci =>
      have enough : 102 ≤ size := room.enough
      rcases uses with rfl | rfl <;> simp <;> omega
  | factorial =>
      have enough : 202 ≤ size := room.enough
      rcases uses with rfl | rfl <;> simp <;> omega
  | sum =>
      have enough := room.sum_le
      rcases uses with rfl | rfl | rfl | inList <;> simp <;> omega

theorem size_program_lt (demo : Demo) : demo.program.size < 2 ^ 32 := by
  cases demo <;> decide

theorem uses_result (listLength : Nat) (demo : Demo) :
    demo.Uses listLength demo.result := by
  cases demo with
  | fibonacci => exact Or.inr rfl
  | factorial => exact Or.inr rfl
  | sum => exact Or.inr (Or.inr (Or.inl rfl))

/-! ## What the demos start from -/

theorem toNat_element {index : Nat} (small : 400 + index < 2 ^ 32) :
    (sumList + UInt32.ofNat index).toNat = 400 + index := by
  have indexSmall : index < 2 ^ 32 := by omega
  rw [UInt32.toNat_add, UInt32.toNat_ofNat_of_lt' indexSmall]
  exact Nat.mod_eq_of_lt small

theorem Room.toNat_length (room : Room inputs .sum size) :
    (UInt32.ofNat inputs.list.length).toNat = inputs.list.length := by
  have enough := room.sum_le
  have addressable := room.addressable
  have small : inputs.list.length < 2 ^ 32 := by omega
  exact UInt32.toNat_ofNat_of_lt' small

theorem Room.toNat_position
    (room : Room inputs .sum size)
    {index : Nat} (inList : index < inputs.list.length) :
    (UInt32.ofNat (400 + index)).toNat = 400 + index := by
  have enough := room.sum_le
  have addressable := room.addressable
  have small : 400 + index < 2 ^ 32 := by omega
  exact UInt32.toNat_ofNat_of_lt' small

theorem mem_cells_sum (room : Room inputs .sum size) :
    (address, value) ∈ sum.cells inputs ↔
      (address.toNat = 300 ∧ value = 400) ∨
        (address.toNat = 301 ∧ value = UInt32.ofNat inputs.list.length) ∨
        (address.toNat = 302 ∧ value = 0) ∨
        ∃ index,
          address.toNat = 400 + index ∧ inputs.list[index]? = some value := by
  have enough := room.sum_le
  have addressable := room.addressable
  have elements :
      (address, value) ∈ (inputs.list.mapIdx fun index element =>
          (sumList + UInt32.ofNat index, element)) ↔
        ∃ index,
          address.toNat = 400 + index ∧ inputs.list[index]? = some value := by
    rw [List.mem_mapIdx]
    constructor
    · rintro ⟨index, inList, pair_eq⟩
      cases pair_eq
      have small : 400 + index < 2 ^ 32 := by omega
      exact ⟨index, toNat_element small, List.getElem?_eq_getElem inList⟩
    · rintro ⟨index, position, found⟩
      obtain ⟨inList, rfl⟩ := List.getElem?_eq_some_iff.mp found
      have small : 400 + index < 2 ^ 32 := by omega
      have address_eq : sumList + UInt32.ofNat index = address :=
        UInt32.toNat_inj.mp ((toNat_element small).trans position.symm)
      exact ⟨index, inList, by rw [address_eq]⟩
  rw [cells, List.mem_append, elements]
  simp [sumStart, sumList, or_assoc, ← UInt32.toNat_inj]

/-- A demo fills its own cells and no others. -/
theorem uses_iff_mem_cells (room : demo.Room inputs size) :
    demo.Uses inputs.list.length address ↔
      ∃ value, (address, value) ∈ demo.cells inputs := by
  cases demo with
  | fibonacci => simp [Uses, cells, fibonacciInput, exists_or]
  | factorial => simp [Uses, cells, factorialInput, exists_or]
  | sum =>
      simp only [mem_cells_sum room, Uses, ← UInt32.toNat_inj]
      constructor
      · rintro (atStart | atLength | atResult | ⟨behind, before⟩)
        · exact ⟨_, Or.inl ⟨atStart, rfl⟩⟩
        · exact ⟨_, Or.inr (Or.inl ⟨atLength, rfl⟩)⟩
        · exact ⟨_, Or.inr (Or.inr (Or.inl ⟨atResult, rfl⟩))⟩
        · have inList : address.toNat - 400 < inputs.list.length := by omega
          have position : address.toNat = 400 + (address.toNat - 400) := by
            omega
          exact
            ⟨_, Or.inr (Or.inr (Or.inr
              ⟨_, position, List.getElem?_eq_getElem inList⟩))⟩
      · rintro ⟨value, atStart | atLength | atResult | ⟨index, position, found⟩⟩
        · exact Or.inl atStart.1
        · exact Or.inr (Or.inl atLength.1)
        · exact Or.inr (Or.inr (Or.inl atResult.1))
        · obtain ⟨inList, -⟩ := List.getElem?_eq_some_iff.mp found
          exact Or.inr (Or.inr (Or.inr (by omega)))

/-- What a demo fills its cell at an address with. -/
def initial (inputs : Inputs) (demo : Demo) (address : Word) : Word :=
  match demo with
  | fibonacci => if address = 100 then inputs.fibonacci else 0
  | factorial => if address = 200 then inputs.factorial else 0
  | sum =>
    if 400 ≤ address.toNat then inputs.list.getD (address.toNat - 400) 0
    else if address.toNat = 300 then sumList
    else if address.toNat = 301 then UInt32.ofNat inputs.list.length
    else 0

theorem eq_initial_of_mem_cells
    (room : demo.Room inputs size)
    (member : (address, value) ∈ demo.cells inputs) :
    value = demo.initial inputs address := by
  cases demo with
  | fibonacci =>
      simp only [cells, List.mem_cons, Prod.mk.injEq, List.not_mem_nil,
        or_false] at member
      rcases member with ⟨rfl, rfl⟩ | ⟨rfl, rfl⟩ <;> rfl
  | factorial =>
      simp only [cells, List.mem_cons, Prod.mk.injEq, List.not_mem_nil,
        or_false] at member
      rcases member with ⟨rfl, rfl⟩ | ⟨rfl, rfl⟩ <;> rfl
  | sum =>
      rw [mem_cells_sum room] at member
      rcases member with
        ⟨position, rfl⟩ | ⟨position, rfl⟩ | ⟨position, rfl⟩ |
          ⟨index, position, found⟩
      · simp [initial, position, sumList]
      · simp [initial, position]
      · simp [initial, position]
      · have behind : 400 ≤ address.toNat := by omega
        have index_eq : address.toNat - 400 = index := by omega
        rw [initial, if_pos behind, index_eq, List.getD_eq_getElem?_getD,
          found, Option.getD_some]

/-- The cells of a demo hold what it starts from. -/
def Prepared (inputs : Inputs) (demo : Demo) (memory : Memory) : Prop :=
  ∀ address, demo.Uses inputs.list.length address →
    memory.get address = demo.initial inputs address

theorem Prepared.start_eq
    {memory : Memory} (prepared : Demo.sum.Prepared inputs memory) :
    memory.get sumStart = sumList :=
  prepared sumStart (Or.inl rfl)

theorem Prepared.length_eq
    {memory : Memory} (prepared : Demo.sum.Prepared inputs memory)
    (room : Room inputs .sum size) :
    (memory.get (sumStart + 1)).toNat = inputs.list.length := by
  rw [prepared (sumStart + 1) (Or.inr (Or.inl rfl))]
  exact room.toNat_length

theorem prepared_setCells
    {machine : Machine} (room : demo.Room inputs machine.memory.size) :
    demo.Prepared inputs (machine.setCells (demo.cells inputs)).memory := by
  intro address uses
  obtain ⟨value, written⟩ := (uses_iff_mem_cells room).mp uses
  have value_eq := eq_initial_of_mem_cells room written
  subst value_eq
  apply Machine.getCell_setCells_of_mem (room.lt uses) written
  rintro ⟨other, filled⟩ member rfl
  exact eq_initial_of_mem_cells room member

theorem get_memory_setCells_of_not_uses
    {machine : Machine} (room : demo.Room inputs machine.memory.size)
    (unused : ¬ demo.Uses inputs.list.length address) :
    (machine.setCells (demo.cells inputs)).memory.get address =
      machine.memory.get address := by
  apply Machine.getCell_setCells_of_unwritten
  rintro ⟨other, filled⟩ member rfl
  exact unused ((uses_iff_mem_cells room).mpr ⟨filled, member⟩)

end Cells

end Demo

end RegisterMachine
