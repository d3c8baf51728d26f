import RegisterMachine.Fault

/-!
# Data memory

A fixed number of cells, numbered from 0, apart from the registers and from the program.
-/

namespace RegisterMachine

structure Memory where
  cells : Array Word
  deriving DecidableEq

namespace Memory

/-- The most cells that a memory can have, `2 ^ 61 - 1`.  Each of them takes four bytes, and nothing
that is allocated has more than `2 ^ 63 - 1` bytes. -/
def mostCells : Nat :=
  2305843009213693951

/-- A memory of `size` cells that all hold zero. -/
def zeros (size : Nat) : Memory :=
  ⟨Array.replicate size 0⟩

def size (memory : Memory) : Nat :=
  memory.cells.size

def load (memory : Memory) (address : Word) : Except Fault Word :=
  match memory.cells[address.toNat]? with
  | some value => .ok value
  | none => .error (.memoryOutOfRange address)

@[inline] def store (memory : Memory) (address value : Word) : Except Fault Memory :=
  if inRange : address.toNat < memory.cells.size then
    .ok ⟨memory.cells.set address.toNat value⟩
  else .error (.memoryOutOfRange address)

/-- The value of a cell.  An address outside the memory reads as 0. -/
def get (memory : Memory) (address : Word) : Word :=
  memory.cells.getD address.toNat 0

/-- Changes a cell.  An address outside the memory changes nothing. -/
def set (memory : Memory) (address value : Word) : Memory :=
  ⟨memory.cells.setIfInBounds address.toNat value⟩

/-- The cells from `start` up to but not including `stop`, if all of them exist. -/
def slice (memory : Memory) (start stop : Nat) : Option (List Word) :=
  if start ≤ stop ∧ stop ≤ memory.size then some (memory.cells.extract start stop).toList
  else none

@[simp] theorem size_zeros (size : Nat) : (zeros size).size = size :=
  Array.size_replicate

@[simp] theorem size_set (memory : Memory) (address value : Word) :
    (memory.set address value).size = memory.size :=
  Array.size_setIfInBounds

@[simp] theorem get_zeros (size : Nat) (address : Word) : (zeros size).get address = 0 := by
  simp only [get, zeros, Array.getD_eq_getD_getElem?, Array.getElem?_replicate]
  split <;> rfl

theorem get_set (memory : Memory) (written address value : Word) :
    (memory.set written value).get address =
      if written = address ∧ address.toNat < memory.size then value else memory.get address := by
  simp only [get, set, size, Array.getD_eq_getD_getElem?, Array.getElem?_setIfInBounds,
    UInt32.toNat_inj]
  by_cases same : written = address
  · subst same
    by_cases inRange : written.toNat < memory.cells.size <;> simp [inRange]
  · simp [same]

theorem load_eq (memory : Memory) (address : Word) :
    memory.load address =
      if address.toNat < memory.size then .ok (memory.get address)
      else .error (.memoryOutOfRange address) := by
  unfold load get size
  by_cases inRange : address.toNat < memory.cells.size <;> simp [inRange]

theorem store_eq (memory : Memory) (address value : Word) :
    memory.store address value =
      if address.toNat < memory.size then .ok (memory.set address value)
      else .error (.memoryOutOfRange address) := by
  unfold store set size
  by_cases inRange : address.toNat < memory.cells.size
  · simp [inRange, Array.setIfInBounds]
  · simp [inRange]

theorem get_of_size_le {memory : Memory} {address : Word}
    (outside : memory.size ≤ address.toNat) : memory.get address = 0 := by
  unfold get
  rw [Array.getD_eq_getD_getElem?, Array.getElem?_eq_none outside]
  rfl

theorem set_of_size_le {memory : Memory} {address : Word}
    (outside : memory.size ≤ address.toNat) (value : Word) :
    memory.set address value = memory := by
  unfold set
  rw [Array.setIfInBounds_eq_of_size_le outside]

end Memory

end RegisterMachine
