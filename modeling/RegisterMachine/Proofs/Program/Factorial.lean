import Mathlib.Data.Nat.Factorial.Basic
import RegisterMachine.Program.Factorial
import RegisterMachine.Proofs.Run.Contract

/-!
# The factorial program

After `rounds` rounds of the loop the product is the falling factorial of the input with `rounds`
factors, and the count is what is left of the input.  Both are taken modulo the size of a word, and
so is the factorial that the program stores.
-/

namespace RegisterMachine.Program.Factorial

open Instruction
open Leads
open RegisterFile (slot)

theorem slot_product : slot product = .ok 0 :=
  rfl

theorem slot_count : slot count = .ok 1 :=
  rfl

theorem slot_one : slot one = .ok 2 :=
  rfl

theorem slot_zero : slot zero = .ok 3 :=
  rfl

/-- Whether the last of the first `rounds` multiplications overflowed. -/
def lastOverflows (n : Nat) : Nat → Bool
  | 0 => false
  | rounds + 1 =>
    decide (2 ^ 32 ≤ n.descFactorial rounds % 2 ^ 32 * (n - rounds))

/-- What holds before each round of the loop. -/
structure AtLoop (memory : Memory) (n rounds : Nat)
    (storage : Storage) : Prop where
  product_eq :
    storage.registers.get 0 = UInt32.ofNat (n.descFactorial rounds)
  count_eq : storage.registers.get 1 = UInt32.ofNat (n - rounds)
  one_eq : storage.registers.get 2 = 1
  overflow_eq : storage.flags.get .overflow = lastOverflows n rounds
  memory_eq : storage.memory = memory

/-- What holds when the product is complete. -/
structure AtDone (memory : Memory) (n : Nat) (storage : Storage) : Prop where
  product_eq : storage.registers.get 0 = UInt32.ofNat n.factorial
  overflow_eq : storage.flags.get .overflow = lastOverflows n (n - 1)
  memory_eq : storage.memory = memory

section Loop

variable {input result : Word} {memory : Memory} {storage : Storage}
variable {n rounds : Nat} {clock : UInt64}

theorem loop_inside : loop.toNat < (factorial input result).size :=
  inside_of_fetched (getElem?_factorial_loop input result)

theorem done_inside : done.toNat < (factorial input result).size :=
  inside_of_fetched (getElem?_factorial_done input result)

theorem AtLoop.compare
    (entry : AtLoop memory n rounds storage) (bound : n < 2 ^ 32) :
    (storage.registers.get 1 == storage.registers.get 2) =
      decide (n - rounds = 1) := by
  rw [entry.count_eq, entry.one_eq]
  exact Word.ofNat_beq_ofNat (by omega) (by decide)

theorem leads_round
    (bound : n < 2 ^ 32) (more : rounds + 1 < n)
    (entry : AtLoop memory n rounds storage) :
    Leads (factorial input result) ⟨storage, loop, clock⟩ []
      loop 5 (AtLoop memory n (rounds + 1)) := by
  have different :
      (storage.registers.get 1 == storage.registers.get 2) = false := by
    rw [entry.compare bound]
    exact decide_eq_false (by omega)
  have nextProduct :
      UInt32.ofNat (n.descFactorial rounds) * UInt32.ofNat (n - rounds) =
        UInt32.ofNat (n.descFactorial (rounds + 1)) := by
    rw [Nat.descFactorial_succ, UInt32.ofNat_mul, UInt32.mul_comm]
  have nextCount :
      UInt32.ofNat (n - rounds) - 1 = UInt32.ofNat (n - (rounds + 1)) :=
    Word.ofNat_sub_one (by omega)
  have nextOverflow :
      decide (2 ^ 32 ≤ (UInt32.ofNat (n.descFactorial rounds)).toNat *
        (UInt32.ofNat (n - rounds)).toNat) =
          lastOverflows n (rounds + 1) := by
    rw [lastOverflows, UInt32.toNat_ofNat',
      UInt32.toNat_ofNat_of_lt' (by omega : n - rounds < 2 ^ 32)]
  refine next (execute_cmp slot_count slot_one)
    (getElem?_factorial_loop input result) ?_
  refine next
    (execute_jmpIfEqual_of_different done_inside different) rfl ?_
  refine next (execute_mul slot_product slot_product slot_count) rfl ?_
  refine next (execute_sub slot_count slot_count slot_one) rfl ?_
  refine jump (execute_jmp loop_inside) rfl ?_
  apply here
  constructor
  · simpa [registerCount, entry.product_eq, entry.count_eq] using nextProduct
  · simpa [registerCount, entry.count_eq, entry.one_eq] using nextCount
  · simp [entry.one_eq]
  · simpa [entry.product_eq, entry.count_eq] using nextOverflow
  · simp [entry.memory_eq]

theorem leads_rounds
    (bound : n < 2 ^ 32) (rounds : Nat) (more : rounds < n)
    (entry : AtLoop memory n 0 storage) :
    Leads (factorial input result) ⟨storage, loop, clock⟩ []
      loop (5 * rounds) (AtLoop memory n rounds) := by
  induction rounds with
  | zero =>
      exact here entry
  | succ rounds inductionHypothesis =>
      have earlier := inductionHypothesis (by omega)
      rw [Nat.mul_succ]
      exact earlier.bind fun middle _ reached =>
        leads_round bound more reached

theorem leads_leave
    (bound : n < 2 ^ 32) (last : rounds + 1 = n)
    (entry : AtLoop memory n rounds storage) :
    Leads (factorial input result) ⟨storage, loop, clock⟩ []
      done 2 (AtDone memory n) := by
  have equal :
      (storage.registers.get 1 == storage.registers.get 2) = true := by
    rw [entry.compare bound]
    exact decide_eq_true (by omega)
  have complete : n.descFactorial rounds = n.factorial := by
    calc
      n.descFactorial rounds = (n - rounds) * n.descFactorial rounds := by
        rw [← last, Nat.add_sub_cancel_left, Nat.one_mul]
      _ = n.factorial := by
        rw [← Nat.descFactorial_succ, last, Nat.descFactorial_self]
  refine next (execute_cmp slot_count slot_one)
    (getElem?_factorial_loop input result) ?_
  refine jump (execute_jmpIfEqual_of_equal done_inside equal) rfl ?_
  apply here
  constructor
  · simp [entry.product_eq, complete]
  · simp [entry.overflow_eq, ← last]
  · simp [entry.memory_eq]

end Loop

/-! ## The whole run -/

section Run

variable (input result : Word) (memory : Memory)

/-- The instructions before the first conditional jump. -/
theorem leads_setup :
    Leads (factorial input result) (State.start memory)
      (memory.missing input) 5 5
      (fun storage =>
        AtLoop memory (memory.get input).toNat 0 storage ∧
          storage.flags.get .zero = decide ((memory.get input).toNat = 0)) := by
  rw [← List.append_nil (memory.missing input)]
  refine next (execute_loadImmediate slot_product 1) rfl ?_
  refine loadDirect slot_count rfl (by simp) ?_
  refine next (execute_loadImmediate slot_one 1) rfl ?_
  refine next (execute_loadImmediate slot_zero 0) rfl ?_
  refine next (execute_cmp slot_count slot_zero) rfl ?_
  apply here
  refine ⟨⟨?_, ?_, ?_, ?_, ?_⟩, ?_⟩
  · simp
  · simp
  · simp
  · simp [lastOverflows]
  · simp
  · simpa using Word.beq_zero (memory.get input)

/-- The number of instructions of a run. -/
def duration (n : Nat) : Nat :=
  if n = 0 then 8 else 5 * n + 5

theorem leads_product :
    Leads (factorial input result) (State.start memory)
      (memory.missing input) done (duration (memory.get input).toNat - 2)
      (AtDone memory (memory.get input).toNat) := by
  have bound : (memory.get input).toNat < 2 ^ 32 := UInt32.toNat_lt _
  have setup := leads_setup input result memory
  rw [← List.append_nil (memory.missing input)]
  generalize (memory.get input).toNat = n at bound setup ⊢
  cases n with
  | zero =>
      have counted : duration 0 - 2 = 5 + 1 := rfl
      rw [counted]
      apply setup.bind
      rintro storage clock ⟨entry, zeroTest⟩
      refine jump (execute_jmpIfEqual_of_equal done_inside zeroTest) rfl ?_
      apply here
      exact ⟨entry.product_eq, entry.overflow_eq, entry.memory_eq⟩
  | succ rounds =>
      have counted :
          duration (rounds + 1) - 2 = 5 + (5 * rounds + 2 + 1) := by
        rw [duration, if_neg (Nat.succ_ne_zero rounds)]
        omega
      rw [counted]
      apply setup.bind
      rintro storage clock ⟨entry, zeroTest⟩
      refine next (execute_jmpIfEqual_of_different done_inside zeroTest) rfl ?_
      exact (leads_rounds bound rounds (by omega) entry).bind
        fun last _ reached => leads_leave bound rfl reached

theorem leads_finish
    {storage : Storage} {n : Nat} {clock : UInt64}
    (exit : AtDone memory n storage) :
    Leads (factorial input result) ⟨storage, done, clock⟩
      (memory.missing result) 13 2
      (fun final =>
        final.memory = memory.set result (UInt32.ofNat n.factorial) ∧
          final.flags.get .overflow = lastOverflows n (n - 1)) := by
  rw [← List.append_nil (memory.missing result)]
  rw [← exit.memory_eq]
  refine store slot_product (getElem?_factorial_done input result) ?_
  apply halt rfl
  simp [exit.product_eq, exit.overflow_eq]

/-- The faults, the number of instructions and the effect of a run. -/
theorem leads_factorial :
    Leads (factorial input result) (State.start memory)
      (memory.missing input ++ memory.missing result)
      13 (duration (memory.get input).toNat)
      (fun final =>
        final.memory =
            memory.set result (UInt32.ofNat (memory.get input).toNat.factorial) ∧
          final.flags.get .overflow =
            lastOverflows (memory.get input).toNat
              ((memory.get input).toNat - 1)) := by
  have counted :
      duration (memory.get input).toNat =
        duration (memory.get input).toNat - 2 + 2 := by
    unfold duration
    split <;> omega
  rw [counted]
  exact (leads_product input result memory).bind
    fun storage _ exit => leads_finish input result memory exit

end Run

theorem haltsAfter_duration (machine : Machine) (input result : Word) :
    ∃ final,
      (machine.load (factorial input result)).HaltsAfter
          (duration (machine.getCell input).toNat) final ∧
        final.memory =
          machine.memory.set result
            (UInt32.ofNat (machine.getCell input).toNat.factorial) ∧
        final.state.flags.get .overflow =
          lastOverflows (machine.getCell input).toNat
            ((machine.getCell input).toNat - 1) := by
  have lead := leads_factorial input result machine.memory
  have fits : (factorial input result).size < 2 ^ 32 := by
    change 13 < 2 ^ 32
    omega
  obtain ⟨final, halts, -, stored, overflow⟩ := lead.haltsAfter_load fits
  exact ⟨final, halts, stored, overflow⟩

theorem haltsAfter_factorial (machine : Machine) (input result : Word) :
    ∃ final,
      (machine.load (factorial input result)).HaltsAfter
          (if (machine.getCell input).toNat = 0 then 8
            else 5 * (machine.getCell input).toNat + 5) final ∧
        final.memory =
          machine.memory.set result
            (UInt32.ofNat (machine.getCell input).toNat.factorial) ∧
        (machine.memory.size ≤ result.toNat →
          final.memory = machine.memory) := by
  obtain ⟨final, halts, stored, -⟩ :=
    haltsAfter_duration machine input result
  refine ⟨final, halts, stored, ?_⟩
  intro outside
  rw [stored, Memory.set_of_size_le outside]

/-! ## The overflow flag

Only the last multiplication decides the flag, and it doubles half of the factorial.  The factorial
of 36 and of every larger number is divisible by `2 ^ 33`, so that the flag is clear although all of
these products have wrapped. -/

theorem lastOverflows_eq (n : Nat) :
    lastOverflows n (n - 1) = decide (2 ^ 31 ≤ n.factorial / 2 % 2 ^ 32) := by
  rcases n with _ | _ | rounds
  · rfl
  · rfl
  · have half :
        (rounds + 2).descFactorial rounds = (rounds + 2).factorial / 2 := by
      rw [Nat.descFactorial_eq_div (by omega), Nat.add_sub_cancel_left,
        Nat.factorial_two]
    have two : rounds + 2 - rounds = 2 := Nat.add_sub_cancel_left rounds 2
    change
      decide (2 ^ 32 ≤
          (rounds + 2).descFactorial rounds % 2 ^ 32 * (rounds + 2 - rounds)) =
        decide (2 ^ 31 ≤ (rounds + 2).factorial / 2 % 2 ^ 32)
    rw [half, two, decide_eq_decide]
    omega

theorem half_factorial_mod_eq_zero {n : Nat} (large : 36 ≤ n) :
    n.factorial / 2 % 2 ^ 32 = 0 := by
  have divides : 2 ^ 33 ∣ n.factorial := by
    have divides36 : 2 ^ 33 ∣ Nat.factorial 36 := by
      decide +kernel
    exact divides36.trans (Nat.factorial_dvd_factorial large)
  omega

/-- The inputs whose factorial does not fit in a word and sets the overflow flag. -/
def flaggedInputs : List Nat :=
  [13, 16, 19, 22, 23, 27, 28, 30, 31, 32, 33, 34, 35]

theorem overflow_agrees_iff (n : Nat) :
    (2 ^ 31 ≤ n.factorial / 2 % 2 ^ 32 ↔ 2 ^ 32 ≤ n.factorial) ↔
      n < 13 ∨ n ∈ flaggedInputs := by
  by_cases small : n < 36
  · -- Both sides are computed for each of these inputs.
    revert n
    decide +kernel
  · have cleared := half_factorial_mod_eq_zero (Nat.not_lt.mp small)
    have wrapped : 2 ^ 32 ≤ n.factorial := by
      have least : 2 ^ 32 ≤ Nat.factorial 13 := by
        decide
      exact least.trans (Nat.factorial_le (by omega))
    have listedBound : ∀ listed ∈ flaggedInputs, listed < 36 := by
      decide
    constructor
    · intro agrees
      have flagged := agrees.mpr wrapped
      omega
    · rintro (fits | listed)
      · omega
      · exact absurd (listedBound n listed) small

/-- The flag at the end of a run, and the inputs for which it tells whether the factorial has
wrapped. -/
theorem overflow_factorial (machine : Machine) (input result : Word) :
    ∃ final,
      (machine.load (factorial input result)).run = some final ∧
        (final.state.flags.get .overflow = true ↔
          2 ^ 31 ≤ (machine.getCell input).toNat.factorial / 2 % 2 ^ 32) ∧
        ((final.state.flags.get .overflow = true ↔
            2 ^ 32 ≤ (machine.getCell input).toNat.factorial) ↔
          (machine.getCell input).toNat < 13 ∨
            (machine.getCell input).toNat ∈ flaggedInputs) := by
  obtain ⟨final, halts, -, overflow⟩ :=
    haltsAfter_duration machine input result
  rw [lastOverflows_eq] at overflow
  refine ⟨final, halts.run, ?_, ?_⟩
  · rw [overflow, decide_eq_true_iff]
  · rw [overflow, decide_eq_true_iff]
    exact overflow_agrees_iff (machine.getCell input).toNat

/-- A machine with an input whose factorial wraps. -/
def wrappingMachine : Machine :=
  (Machine.create 256 2 .silent).setCell 0 14

/-- The factorial of 14 does not fit in a word, and yet the flag is clear. -/
theorem overflow_not_of_wrapped :
    (0 : Word).toNat < wrappingMachine.memory.size ∧
      ∃ final,
        (wrappingMachine.load (factorial 0 1)).run = some final ∧
          ¬ (final.state.flags.get .overflow = true ↔
            2 ^ 32 ≤ (wrappingMachine.getCell 0).toNat.factorial) := by
  refine ⟨by decide, ?_⟩
  obtain ⟨final, halts, -, overflow⟩ :=
    haltsAfter_duration wrappingMachine 0 1
  have cell : (wrappingMachine.getCell 0).toNat = 14 := by
    decide
  refine ⟨final, halts.run, ?_⟩
  rw [overflow, lastOverflows_eq, decide_eq_true_iff, cell]
  decide +kernel

end RegisterMachine.Program.Factorial
