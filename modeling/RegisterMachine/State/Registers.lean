import RegisterMachine.Fault

/-!
# The register file

Sixteen registers, numbered from 0.  An index that names none of them is a fault.
-/

namespace RegisterMachine

/-- The number of registers. -/
abbrev registerCount : Nat := 16

/-- A register that the machine has. -/
abbrev Register := Fin registerCount

structure RegisterFile where
  values : Vector Word registerCount
  deriving DecidableEq

@[simp] theorem registerCount_ne_one : registerCount ≠ 1 := by
  decide

namespace RegisterFile

/-- All registers hold zero. -/
def clear : RegisterFile :=
  ⟨Vector.replicate registerCount 0⟩

/-- The register that an index names. -/
def slot (index : Word) : Except Fault Register :=
  if inRange : index.toNat < registerCount then .ok ⟨index.toNat, inRange⟩
  else .error (.registerOutOfRange index)

def get (registers : RegisterFile) (register : Register) : Word :=
  registers.values[register]

def set (registers : RegisterFile) (register : Register) (value : Word) : RegisterFile :=
  ⟨registers.values.set register value⟩

def read (registers : RegisterFile) (index : Word) : Except Fault Word :=
  match slot index with
  | .ok register => .ok (registers.get register)
  | .error fault => .error fault

def write (registers : RegisterFile) (index value : Word) : Except Fault RegisterFile :=
  match slot index with
  | .ok register => .ok (registers.set register value)
  | .error fault => .error fault

theorem get_set (registers : RegisterFile) (written register : Register) (value : Word) :
    (registers.set written value).get register =
      if written = register then value else registers.get register := by
  simp [get, set, Vector.getElem_set, Fin.ext_iff]

@[simp] theorem get_clear (register : Register) : clear.get register = 0 := by
  simp [get, clear]

theorem ext_get {left right : RegisterFile}
    (same : ∀ register, left.get register = right.get register) : left = right := by
  cases left
  cases right
  congr 1
  apply Vector.ext
  intro index inRange
  exact same ⟨index, inRange⟩

/-- Writing to a register what it already holds changes nothing. -/
theorem set_get_self (registers : RegisterFile) (register : Register) :
    registers.set register (registers.get register) = registers := by
  apply ext_get
  intro other
  rw [get_set]
  split
  · next same => rw [same]
  · rfl

end RegisterFile

end RegisterMachine
