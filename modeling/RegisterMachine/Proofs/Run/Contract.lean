import RegisterMachine.Proofs.Run.Path

/-!
# Contracts

`Leads program source faults counter count post` says that `count` instructions of the program come
from `source` to `counter`, with a storage that satisfies `post`.  The rules below prove a contract
from the front, one instruction at a time, and `bind` puts two contracts together.  A contract holds
whatever the clock says.
-/

namespace RegisterMachine

/-- What an access to a cell that does not exist reports. -/
def Memory.missing (memory : Memory) (address : Word) : List Fault :=
  if address.toNat < memory.size then [] else [.memoryOutOfRange address]

theorem Memory.missing_of_lt
    {memory : Memory} {address : Word} (inside : address.toNat < memory.size) :
    memory.missing address = [] :=
  if_pos inside

def Leads (program : Program) (source : State) (faults : List Fault)
    (counter : Word) (count : Nat) (post : Storage → Prop) : Prop :=
  ∃ storage clock,
    Path program source faults count ⟨storage, counter, clock⟩ ∧ post storage

namespace Leads

variable {program : Program} {instruction : Instruction}
variable {storage result : Storage} {counter finish : Word} {clock : UInt64}
variable {count : Nat}
variable {faults : List Fault} {post : Storage → Prop}

theorem here (holds : post storage) :
    Leads program ⟨storage, counter, clock⟩ [] counter 0 post :=
  ⟨storage, clock, .refl program ⟨storage, counter, clock⟩, holds⟩

theorem mono
    {source : State} {weaker : Storage → Prop}
    (lead : Leads program source faults counter count post)
    (implies : ∀ storage, post storage → weaker storage) :
    Leads program source faults counter count weaker := by
  obtain ⟨storage, clock, path, holds⟩ := lead
  exact ⟨storage, clock, path, implies storage holds⟩

theorem bind
    {source : State} {before behind : List Fault} {stop : Word}
    {first second : Nat} {between : Storage → Prop}
    (front : Leads program source before counter first between)
    (back :
      ∀ middle clock, between middle →
        Leads program ⟨middle, counter, clock⟩ behind stop second post) :
    Leads program source (before ++ behind) stop (first + second) post := by
  obtain ⟨middle, clock, frontPath, holds⟩ := front
  obtain ⟨last, lastClock, backPath, goal⟩ := back middle clock holds
  exact ⟨last, lastClock, frontPath.trans backPath, goal⟩

theorem ofStep
    {ending : Ending}
    (executed : instruction.execute program.size storage = (result, ending))
    (fetched : program[counter.toNat]? = some instruction)
    (rest :
      Leads program
        ⟨result, ending.counterAfter counter program.size, clock + 1⟩
        faults finish count post) :
    Leads program ⟨storage, counter, clock⟩ (ending.faults ++ faults)
      finish (count + 1) post := by
  obtain ⟨last, lastClock, path, holds⟩ := rest
  have whole := (Path.single executed fetched).trans path
  rw [Nat.add_comm 1 count] at whole
  exact ⟨last, lastClock, whole, holds⟩

theorem next
    (executed : instruction.execute program.size storage = (result, .next))
    (fetched : program[counter.toNat]? = some instruction)
    (rest :
      Leads program ⟨result, counter + 1, clock + 1⟩ faults finish count post) :
    Leads program ⟨storage, counter, clock⟩ faults finish (count + 1) post :=
  ofStep executed fetched rest

theorem inside_of_fetched
    (fetched : program[counter.toNat]? = some instruction) :
    counter.toNat < program.size :=
  (Array.getElem?_eq_some_iff.mp fetched).1

theorem jump
    {destination : Word}
    (executed :
      instruction.execute program.size storage = (result, .jump destination))
    (fetched : program[counter.toNat]? = some instruction)
    (rest :
      Leads program ⟨result, destination, clock + 1⟩ faults finish count post) :
    Leads program ⟨storage, counter, clock⟩ faults finish (count + 1) post :=
  ofStep executed fetched rest

theorem skip
    {reason : Fault}
    (executed :
      instruction.execute program.size storage = (storage, .fault reason))
    (fetched : program[counter.toNat]? = some instruction)
    (rest :
      Leads program ⟨storage, counter + 1, clock + 1⟩ faults finish count post) :
    Leads program ⟨storage, counter, clock⟩ (reason :: faults)
      finish (count + 1) post :=
  ofStep executed fetched rest

theorem halt
    (fetched : program[counter.toNat]? = some Instruction.halt)
    (holds : post storage) :
    Leads program ⟨storage, counter, clock⟩ []
      (Word.saturate program.size) 1 post :=
  ofStep execute_halt fetched (here holds)

/-- A contract from the start to the end of a program is a run of every machine that has the
program loaded over the same memory. -/
theorem haltsAfter_load
    {machine : Machine}
    (lead :
      Leads program (State.start machine.memory) faults
        (Word.saturate program.size) count post)
    (fits : program.size < 2 ^ 32) :
    ∃ final,
      (machine.load program).HaltsAfter count final ∧
        final.state.counter = Word.saturate program.size ∧
        post final.state.toStorage := by
  obtain ⟨storage, clock, path, holds⟩ := lead
  have ended :
      State.Ended program ⟨storage, Word.saturate program.size, clock⟩ := by
    change program.size ≤ (Word.saturate program.size).toNat
    rw [Word.toNat_saturate fits]
  obtain ⟨final, halts, reached⟩ := path.haltsAfter_load fits ended
  refine ⟨final, halts, ?_, ?_⟩
  · rw [reached]
  · rw [reached]
    exact holds

/-! ## Accesses to memory -/

section Accesses

open RegisterFile (slot)

variable {dst left : Word} {target first : Register} {address : Word}

/-- A direct load into a register that still holds zero.  An address outside the memory reads as
zero, so the register holds the cell whether or not the load faults. -/
theorem loadDirect
    (targetSlot : slot dst = .ok target)
    (fetched : program[counter.toNat]? = some (Instruction.loadDirect dst address))
    (unset : storage.registers.get target = 0)
    (rest :
      Leads program
        ⟨storage.setRegister target (storage.memory.get address),
          counter + 1, clock + 1⟩
        faults finish count post) :
    Leads program ⟨storage, counter, clock⟩
      (storage.memory.missing address ++ faults) finish (count + 1) post := by
  have executed :
      (Instruction.loadDirect dst address).execute program.size storage = _ :=
    execute_loadDirect targetSlot address
  unfold Memory.missing
  by_cases inRange : address.toNat < storage.memory.size
  · rw [if_pos inRange] at executed ⊢
    exact next executed fetched rest
  · have kept :
        storage.setRegister target (storage.memory.get address) = storage := by
      rw [Memory.get_of_size_le (Nat.not_lt.mp inRange), ← unset,
        Storage.setRegister, RegisterFile.set_get_self]
    rw [if_neg inRange] at executed ⊢
    rw [kept] at rest
    exact skip executed fetched rest

/-- An indirect load.  If it faults, the register keeps what it holds. -/
theorem loadIndirect
    {loaded : Word}
    (targetSlot : slot dst = .ok target)
    (firstSlot : slot left = .ok first)
    (value :
      storage.memory.cells.getD (storage.registers.get first).toNat
          (storage.registers.get target) =
        loaded)
    (fetched : program[counter.toNat]? = some (Instruction.loadIndirect dst left))
    (rest :
      Leads program
        ⟨storage.setRegister target loaded, counter + 1, clock + 1⟩
        faults finish count post) :
    Leads program ⟨storage, counter, clock⟩
      (storage.memory.missing (storage.registers.get first) ++ faults)
      finish (count + 1) post := by
  have executed :
      (Instruction.loadIndirect dst left).execute program.size storage = _ :=
    execute_loadIndirect targetSlot firstSlot
  rw [← value, Array.getD_eq_getD_getElem?] at rest
  unfold Memory.missing
  by_cases inRange : (storage.registers.get first).toNat < storage.memory.size
  · have cell :
        storage.memory.get (storage.registers.get first) =
          storage.memory.cells[(storage.registers.get first).toNat] := by
      unfold Memory.get
      rw [Array.getD_eq_getD_getElem?, Array.getElem?_eq_getElem inRange]
      rfl
    rw [if_pos inRange] at executed ⊢
    rw [cell] at executed
    rw [Array.getElem?_eq_getElem inRange] at rest
    exact next executed fetched rest
  · rw [Array.getElem?_eq_none (Nat.not_lt.mp inRange), Option.getD_none,
      Storage.setRegister, RegisterFile.set_get_self] at rest
    rw [if_neg inRange] at executed ⊢
    exact skip executed fetched rest

/-- A store.  Outside the memory it changes nothing. -/
theorem store
    (firstSlot : slot left = .ok first)
    (fetched : program[counter.toNat]? = some (Instruction.store address left))
    (rest :
      Leads program
        ⟨storage.setCell address (storage.registers.get first),
          counter + 1, clock + 1⟩
        faults finish count post) :
    Leads program ⟨storage, counter, clock⟩
      (storage.memory.missing address ++ faults) finish (count + 1) post := by
  have executed :
      (Instruction.store address left).execute program.size storage = _ :=
    execute_store firstSlot address
  unfold Memory.missing
  by_cases inRange : address.toNat < storage.memory.size
  · rw [if_pos inRange] at executed ⊢
    exact next executed fetched rest
  · have kept :
        storage.setCell address (storage.registers.get first) = storage := by
      rw [Storage.setCell, Memory.set_of_size_le (Nat.not_lt.mp inRange)]
    rw [if_neg inRange] at executed ⊢
    rw [kept] at rest
    exact skip executed fetched rest

end Accesses

end Leads

end RegisterMachine
