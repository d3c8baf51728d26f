import RegisterMachine.Machine.Basic

/-!
# Dumps

The registers of a machine and a range of its memory as text.
-/

namespace RegisterMachine.Machine

open Text.Numeral

/-- A line such as `r07 = 0x0000000a (10)`. -/
def registerLine (register : Register) (value : Word) : String :=
  "r" ++ paddedDecimal 2 register.val ++ " = 0x" ++ wordHex value.toNat ++ " (" ++
    decimal value.toNat ++ ")\n"

/-- The registers, the counter and the flags, a line each. -/
def dumpRegisters (machine : Machine) : String :=
  "Registers:\n" ++
    String.join ((List.finRange registerCount).map fun register =>
      registerLine register (machine.state.registers.get register)) ++
    "pc  = " ++ decimal machine.state.counter.toNat ++ "\n" ++
    "flags: " ++ machine.state.flags.text ++ "\n"

/-- Cuts a list into rows of eight.  The last row may be shorter. -/
def rows {α : Type} : List α → List (List α)
  | [] => []
  | cell :: rest => (cell :: rest.take 7) :: rows (rest.drop 7)
termination_by cells => cells.length
decreasing_by
  simp only [List.length_drop, List.length_cons]
  omega

/-- No cell is lost, repeated or moved. -/
theorem flatten_rows {α : Type} (cells : List α) : (rows cells).flatten = cells := by
  fun_induction rows cells with
  | case1 => rfl
  | case2 cell rest ih =>
      rw [List.flatten_cons, ih, List.cons_append, List.take_append_drop]

/-- A row of cells behind the address of the first one. -/
def rowLine (address : Nat) (row : List Word) : String :=
  wordHex address ++ "  " ++ " ".intercalate (row.map fun cell => wordHex cell.toNat) ++ "\n"

/-- The cells from `start` up to but not including `stop`, eight to a line, if all of them
exist. -/
def dumpMemory (machine : Machine) (start stop : Nat) : Option String :=
  (machine.memory.slice start stop).map fun cells =>
    "--- Memory Dump ---\n" ++
      String.join ((rows cells).mapIdx fun index row => rowLine (start + 8 * index) row) ++
      "-------------------\n"

end RegisterMachine.Machine
