import Mathlib.Data.Nat.Fib.Basic
import RegisterMachine.Program.Fibonacci
import RegisterMachine.Proofs.Run.Contract

/-!
# The Fibonacci program

The loop steps from one Fibonacci number to the next until it comes to the position in the input or
an addition carries.  The number at position 47 is the last that fits in a word.
-/

namespace RegisterMachine.Program.Fibonacci

open Instruction hiding cmp
open Leads hiding next
open RegisterFile (slot)

theorem slot_input : slot input = .ok 0 :=
  rfl

theorem slot_one : slot one = .ok 1 :=
  rfl

theorem slot_previous : slot previous = .ok 2 :=
  rfl

theorem slot_current : slot current = .ok 3 :=
  rfl

theorem slot_position : slot position = .ok 4 :=
  rfl

theorem slot_next : slot next = .ok 5 :=
  rfl

theorem slot_carried : slot carried = .ok 6 :=
  rfl

theorem fib_lt_of_le {n : Nat} (small : n ≤ 47) : Nat.fib n < 2 ^ 32 := by
  have largest : Nat.fib 47 < 2 ^ 32 := by
    decide +kernel
  exact lt_of_le_of_lt (Nat.fib_mono small) largest

theorem le_fib_of_lt {n : Nat} (large : 47 < n) : 2 ^ 32 ≤ Nat.fib n := by
  have smallest : 2 ^ 32 ≤ Nat.fib 48 := by
    decide +kernel
  exact smallest.trans (Nat.fib_mono large)

/-! ## The loop -/

/-- What holds before each round of the loop. -/
structure AtLoop (memory : Memory) (n rounds : Nat)
    (storage : Storage) : Prop where
  input_eq : storage.registers.get 0 = UInt32.ofNat n
  one_eq : storage.registers.get 1 = 1
  previous_eq :
    storage.registers.get 2 = UInt32.ofNat (Nat.fib rounds)
  current_eq :
    storage.registers.get 3 = UInt32.ofNat (Nat.fib (rounds + 1))
  position_eq : storage.registers.get 4 = UInt32.ofNat (rounds + 1)
  carry_eq : storage.flags.get .carry = false
  memory_eq : storage.memory = memory

/-- What holds in a round when the carry of its addition has been compared. -/
structure AtTest (memory : Memory) (n rounds : Nat) (carry : Bool)
    (storage : Storage) : Prop where
  input_eq : storage.registers.get 0 = UInt32.ofNat n
  one_eq : storage.registers.get 1 = 1
  current_eq :
    storage.registers.get 3 = UInt32.ofNat (Nat.fib (rounds + 1))
  position_eq : storage.registers.get 4 = UInt32.ofNat (rounds + 1)
  next_eq : storage.registers.get 5 = UInt32.ofNat (Nat.fib (rounds + 2))
  carry_eq : storage.flags.get .carry = carry
  equal_eq : storage.flags.get .zero = carry
  memory_eq : storage.memory = memory

section Loop

variable {source result : Word} {memory : Memory} {storage : Storage}
variable {n rounds : Nat} {clock : UInt64}

theorem loop_inside : loop.toNat < (fibonacci source result).size :=
  inside_of_fetched (getElem?_fibonacci_loop source result)

theorem zeroCase_inside : zeroCase.toNat < (fibonacci source result).size :=
  inside_of_fetched (getElem?_fibonacci_zeroCase source result)

theorem finish_inside : finish.toNat < (fibonacci source result).size :=
  inside_of_fetched (getElem?_fibonacci_finish source result)

theorem stop_inside : stop.toNat < (fibonacci source result).size :=
  inside_of_fetched (getElem?_fibonacci_stop source result)

theorem AtLoop.compare
    (entry : AtLoop memory n rounds storage)
    (bound : n < 2 ^ 32) (le : rounds + 1 ≤ n) :
    (storage.registers.get 4 == storage.registers.get 0) =
      decide (rounds + 1 = n) := by
  rw [entry.position_eq, entry.input_eq]
  exact Word.ofNat_beq_ofNat (by omega) bound

theorem leads_addition
    {carry : Bool}
    (bound : n < 2 ^ 32) (more : rounds + 1 < n) (small : rounds ≤ 46)
    (carry_eq : decide (rounds = 46) = carry)
    (entry : AtLoop memory n rounds storage) :
    Leads (fibonacci source result) ⟨storage, loop, clock⟩ []
      12 5 (AtTest memory n rounds carry) := by
  have different :
      (storage.registers.get 4 == storage.registers.get 0) = false := by
    rw [entry.compare bound more.le]
    exact decide_eq_false (by omega)
  have nextNumber :
      UInt32.ofNat (Nat.fib rounds) + UInt32.ofNat (Nat.fib (rounds + 1)) =
        UInt32.ofNat (Nat.fib (rounds + 2)) := by
    rw [Nat.fib_add_two, UInt32.ofNat_add]
  have carried :
      decide (2 ^ 32 ≤
          (UInt32.ofNat (Nat.fib rounds)).toNat +
            (UInt32.ofNat (Nat.fib (rounds + 1))).toNat) =
        carry := by
    rw [← carry_eq, UInt32.toNat_ofNat_of_lt' (fib_lt_of_le (by omega)),
      UInt32.toNat_ofNat_of_lt' (fib_lt_of_le (by omega)),
      ← Nat.fib_add_two, decide_eq_decide]
    constructor
    · intro carries
      by_contra earlier
      exact absurd (fib_lt_of_le (by omega)) (Nat.not_lt.mpr carries)
    · intro last
      exact le_fib_of_lt (by omega)
  refine Leads.next (execute_cmp slot_position slot_input)
    (getElem?_fibonacci_loop source result) ?_
  refine Leads.next
    (execute_jmpIfEqual_of_different finish_inside different) rfl ?_
  refine Leads.next
    (execute_add slot_next slot_previous slot_current) rfl ?_
  refine Leads.next (execute_checkFlag slot_carried .carry) rfl ?_
  refine Leads.next (execute_cmp slot_carried slot_one) rfl ?_
  apply here
  constructor
  · simp [entry.input_eq]
  · simp [entry.one_eq]
  · simp [entry.current_eq]
  · simp [entry.position_eq]
  · simpa [entry.previous_eq, entry.current_eq] using nextNumber
  · simpa [entry.previous_eq, entry.current_eq] using carried
  · simpa [entry.previous_eq, entry.current_eq, entry.one_eq] using carried
  · simp [entry.memory_eq]

/-- The rest of a round whose addition has not carried.  The carry flag is what counting the
position leaves. -/
theorem leads_advance
    (bound : n < 2 ^ 32) (more : rounds + 1 < n)
    (test : AtTest memory n rounds false storage) :
    Leads (fibonacci source result) ⟨storage, 12, clock⟩ []
      loop 5 (AtLoop memory n (rounds + 1)) := by
  have noCarry :
      decide (2 ^ 32 ≤
          (UInt32.ofNat (rounds + 1)).toNat + (1 : Word).toNat) =
        false := by
    rw [UInt32.toNat_ofNat_of_lt' (by omega : rounds + 1 < 2 ^ 32)]
    change decide (2 ^ 32 ≤ rounds + 1 + 1) = false
    exact decide_eq_false (by omega)
  refine Leads.next
    (execute_jmpIfEqual_of_different stop_inside test.equal_eq) rfl ?_
  refine Leads.next (execute_mov slot_previous slot_current) rfl ?_
  refine Leads.next (execute_mov slot_current slot_next) rfl ?_
  refine Leads.next
    (execute_add slot_position slot_position slot_one) rfl ?_
  refine jump (execute_jmp loop_inside) rfl ?_
  apply here
  constructor
  · simp [test.input_eq]
  · simp [test.one_eq]
  · simp [test.current_eq]
  · simp [test.next_eq]
  · simp [test.position_eq, test.one_eq]
  · simpa [test.position_eq, test.one_eq] using noCarry
  · simp [test.memory_eq]

/-- A whole round.  Only the addition at position 47 carries, and this round is before it. -/
theorem leads_round
    (bound : n < 2 ^ 32) (more : rounds + 1 < n) (small : rounds < 46)
    (entry : AtLoop memory n rounds storage) :
    Leads (fibonacci source result) ⟨storage, loop, clock⟩ []
      loop 10 (AtLoop memory n (rounds + 1)) := by
  have noCarry : decide (rounds = 46) = false :=
    decide_eq_false (Nat.ne_of_lt small)
  exact (leads_addition bound more small.le noCarry entry).bind
    fun tested _ test => leads_advance bound more test

theorem leads_rounds
    (bound : n < 2 ^ 32) (rounds : Nat) (le : rounds + 1 ≤ n)
    (small : rounds ≤ 46)
    (entry : AtLoop memory n 0 storage) :
    Leads (fibonacci source result) ⟨storage, loop, clock⟩ []
      loop (10 * rounds) (AtLoop memory n rounds) := by
  induction rounds with
  | zero =>
      exact here entry
  | succ rounds inductionHypothesis =>
      have earlier := inductionHypothesis (by omega) (by omega)
      rw [Nat.mul_succ]
      exact earlier.bind fun middle _ reached =>
        leads_round bound (by omega) (by omega) reached

theorem leads_leave
    (bound : n < 2 ^ 32) (last : rounds + 1 = n)
    (entry : AtLoop memory n rounds storage) :
    Leads (fibonacci source result) ⟨storage, loop, clock⟩ []
      finish 2 (AtLoop memory n rounds) := by
  have equal :
      (storage.registers.get 4 == storage.registers.get 0) = true := by
    rw [entry.compare bound last.le]
    exact decide_eq_true last
  refine Leads.next (execute_cmp slot_position slot_input)
    (getElem?_fibonacci_loop source result) ?_
  refine jump (execute_jmpIfEqual_of_equal finish_inside equal) rfl ?_
  apply here
  constructor
  · simp [entry.input_eq]
  · simp [entry.one_eq]
  · simp [entry.previous_eq]
  · simp [entry.current_eq]
  · simp [entry.position_eq]
  · simp [entry.carry_eq]
  · simp [entry.memory_eq]

/-- A round whose addition carries.  It ends the run without a store. -/
theorem leads_break
    (bound : n < 2 ^ 32) (large : 47 < n)
    (entry : AtLoop memory n 46 storage) :
    Leads (fibonacci source result) ⟨storage, loop, clock⟩ []
      20 7
      (fun final =>
        final.memory = memory ∧ final.flags.get .carry = true) := by
  have counted : 7 = 5 + 2 := rfl
  rw [← List.append_nil [], counted]
  apply (leads_addition bound large le_rfl (decide_eq_true rfl) entry).bind
  intro tested clock test
  refine jump (execute_jmpIfEqual_of_equal stop_inside test.equal_eq) rfl ?_
  apply halt (getElem?_fibonacci_stop source result)
  exact ⟨test.memory_eq, test.carry_eq⟩

theorem leads_store
    (current_eq :
      storage.registers.get 3 = UInt32.ofNat (Nat.fib n))
    (carry_eq : storage.flags.get .carry = false)
    (memory_eq : storage.memory = memory) :
    Leads (fibonacci source result) ⟨storage, finish, clock⟩
      (memory.missing result) 20 2
      (fun final =>
        final.memory = memory.set result (UInt32.ofNat (Nat.fib n)) ∧
          final.flags.get .carry = false) := by
  rw [← List.append_nil (memory.missing result), ← memory_eq]
  refine store slot_current (getElem?_fibonacci_finish source result) ?_
  apply halt rfl
  constructor
  · simp [current_eq]
  · exact carry_eq

end Loop

/-! ## The whole run -/

section Run

variable (source result : Word) (memory : Memory)

/-- The instructions before the first conditional jump. -/
theorem leads_setup :
    Leads (fibonacci source result) (State.start memory)
      (memory.missing source) 6 6
      (fun storage =>
        AtLoop memory (memory.get source).toNat 0 storage ∧
          storage.flags.get .zero =
            decide ((memory.get source).toNat = 0)) := by
  rw [← List.append_nil (memory.missing source)]
  refine loadDirect slot_input rfl (by simp) ?_
  refine Leads.next (execute_loadImmediate slot_one 1) rfl ?_
  refine Leads.next (execute_loadImmediate slot_previous 0) rfl ?_
  refine Leads.next (execute_loadImmediate slot_current 1) rfl ?_
  refine Leads.next (execute_loadImmediate slot_position 1) rfl ?_
  refine Leads.next (execute_cmp slot_input slot_previous) rfl ?_
  apply here
  refine ⟨⟨?_, ?_, ?_, ?_, ?_, ?_, ?_⟩, ?_⟩
  · simp
  · simp
  · simp
  · simp
  · simp
  · simp
  · simp
  · simpa using Word.beq_zero (memory.get source)

/-- The run for a position whose number fits in a word. -/
theorem leads_of_fits
    (small : (memory.get source).toNat ≤ 47) :
    ∃ total ≤ 471,
      Leads (fibonacci source result) (State.start memory)
        (memory.missing source ++ memory.missing result) 20 total
        (fun final =>
          final.memory =
              memory.set result
                (UInt32.ofNat (Nat.fib (memory.get source).toNat)) ∧
            final.flags.get .carry = false) := by
  have setup := leads_setup source result memory
  generalize (memory.get source).toNat = n at small setup ⊢
  cases n with
  | zero =>
      refine ⟨6 + 4, by decide, setup.bind ?_⟩
      rintro storage clock ⟨entry, zeroTest⟩
      refine jump
        (execute_jmpIfEqual_of_equal zeroCase_inside zeroTest) rfl ?_
      refine Leads.next (execute_mov slot_current slot_previous)
        (getElem?_fibonacci_zeroCase source result) ?_
      apply leads_store
      · simp [entry.previous_eq]
      · simp [entry.carry_eq]
      · simp [entry.memory_eq]
  | succ rounds =>
      have bound : rounds + 1 < 2 ^ 32 := by omega
      refine ⟨6 + (10 * rounds + 4 + 1), by omega, setup.bind ?_⟩
      rintro storage clock ⟨entry, zeroTest⟩
      refine Leads.next
        (execute_jmpIfEqual_of_different zeroCase_inside zeroTest) rfl ?_
      rw [← List.nil_append (memory.missing result)]
      apply
        (leads_rounds bound rounds le_rfl (by omega) entry).bind
      intro last clock reached
      exact (leads_leave bound rfl reached).bind fun exit _ progress =>
        leads_store progress.current_eq progress.carry_eq
          progress.memory_eq

/-- The run for a position whose number does not fit in a word. -/
theorem leads_of_carry
    (large : 47 < (memory.get source).toNat) :
    Leads (fibonacci source result) (State.start memory)
      (memory.missing source) 20 474
      (fun final =>
        final.memory = memory ∧ final.flags.get .carry = true) := by
  have bound : (memory.get source).toNat < 2 ^ 32 := UInt32.toNat_lt _
  have counted : 474 = 6 + (10 * 46 + 7 + 1) := rfl
  rw [← List.append_nil (memory.missing source), counted]
  apply (leads_setup source result memory).bind
  rintro storage clock ⟨entry, zeroTest⟩
  rw [decide_eq_false (by omega)] at zeroTest
  refine Leads.next
    (execute_jmpIfEqual_of_different zeroCase_inside zeroTest) rfl ?_
  rw [← List.append_nil []]
  apply (leads_rounds bound 46 (by omega) le_rfl entry).bind
  intro last clock reached
  exact leads_break bound large reached

end Run

theorem haltsAfter_fibonacci (machine : Machine) (source result : Word) :
    let n := (machine.getCell source).toNat
    ∃ count ≤ 474, ∃ final,
      (machine.load (fibonacci source result)).HaltsAfter count final ∧
        final.status = .halted ∧
        final.state.counter = 20 ∧
        (n ≤ 47 →
          final.memory =
              machine.memory.set result (UInt32.ofNat (Nat.fib n)) ∧
            Nat.fib n < 2 ^ 32 ∧
            (machine.memory.size ≤ result.toNat →
              final.memory = machine.memory) ∧
            final.state.flags.get .carry = false) ∧
        (48 ≤ n →
          final.memory = machine.memory ∧
            final.state.flags.get .carry = true) := by
  intro n
  have programFits : (fibonacci source result).size < 2 ^ 32 := by
    change 20 < 2 ^ 32
    omega
  by_cases small : n ≤ 47
  · obtain ⟨total, total_le, lead⟩ :=
      leads_of_fits source result machine.memory small
    obtain ⟨final, halts, counter_eq, stored, carry⟩ :=
      lead.haltsAfter_load programFits
    refine ⟨total, by omega, final, halts, halts.status, counter_eq, ?_, ?_⟩
    · intro _
      refine ⟨stored, fib_lt_of_le small, ?_, carry⟩
      intro outside
      exact stored.trans (Memory.set_of_size_le outside _)
    · intro large
      omega
  · have lead :=
      leads_of_carry source result machine.memory (Nat.not_le.mp small)
    obtain ⟨final, halts, counter_eq, kept, carry⟩ :=
      lead.haltsAfter_load programFits
    refine ⟨474, le_rfl, final, halts, halts.status, counter_eq, ?_, ?_⟩
    · intro le
      exact absurd le small
    · intro _
      exact ⟨kept, carry⟩

end RegisterMachine.Program.Fibonacci
