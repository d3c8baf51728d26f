import Mathlib.Algebra.Order.BigOperators.Group.List
import RegisterMachine.Proofs.Demo.Sequence
import RegisterMachine.Proofs.Program.Factorial
import RegisterMachine.Proofs.Program.Fibonacci
import RegisterMachine.Proofs.Program.RunningSum
import RegisterMachine.Proofs.Report.Execute

/-!
# What the demos find

Every demo runs to its end without a fault and leaves its answer in its result cell.  Demos that run
one after the other on one machine do not disturb each other.
-/

namespace RegisterMachine.Demo

/-! ## Answers -/

/-- The sum of the first `count` elements, however large. -/
def partialSum (list : List Word) (count : Nat) : Nat :=
  ((list.take count).map UInt32.toNat).sum

/-- `Answer inputs demo value carry` says that `value` is what the demo is to find, and that `carry`
is the carry flag that goes with it. -/
inductive Answer (inputs : Inputs) : Demo → Word → Bool → Prop
  | fibonacci {value : Word} :
      inputs.fibonacci.toNat ≤ 47 →
      value.toNat = Nat.fib inputs.fibonacci.toNat →
      Answer inputs .fibonacci value false
  | fibonacciCarry :
      47 < inputs.fibonacci.toNat →
      Answer inputs .fibonacci 0 true
  | factorial {value : Word} {carry : Bool} :
      value.toNat = inputs.factorial.toNat.factorial % 2 ^ 32 →
      Answer inputs .factorial value carry
  | sum {value : Word} :
      partialSum inputs.list inputs.list.length < 2 ^ 32 →
      value.toNat = partialSum inputs.list inputs.list.length →
      Answer inputs .sum value false
  | sumCarry {value : Word} {count : Nat} :
      IsLeast {count | 2 ^ 32 ≤ partialSum inputs.list count} count →
      value.toNat = partialSum inputs.list count % 2 ^ 32 →
      Answer inputs .sum value true

section Sums

open Program.RunningSum (held total)

variable {inputs : Inputs} {memory : Memory} {count : Nat}

/-- The elements that a run adds are those of the list. -/
theorem held_of_prepared
    (room : Room inputs .sum memory.size)
    (prepared : Demo.sum.Prepared inputs memory)
    {index : Nat} (inList : index < inputs.list.length) :
    held memory sumList (index + 1) = inputs.list[index] := by
  have enough := room.sum_le
  have addressable := room.addressable
  have small : 400 + index < 2 ^ 32 := by omega
  have position := toNat_element small
  have unwrapped :
      (sumList.toNat + index) % 2 ^ 32 =
        (sumList + UInt32.ofNat index).toNat := by
    rw [position]
    exact Nat.mod_eq_of_lt small
  have inside :
      (sumList.toNat + index) % 2 ^ 32 < memory.size := by
    rw [unwrapped, position]
    omega
  have filled := prepared (sumList + UInt32.ofNat index) (by
    refine Or.inr (Or.inr (Or.inr ?_))
    omega)
  have element :
      Demo.sum.initial inputs (sumList + UInt32.ofNat index) =
        inputs.list[index] := by
    have behind : 400 ≤ (sumList + UInt32.ofNat index).toNat := by omega
    rw [initial, if_pos behind, position, Nat.add_sub_cancel_left,
      List.getD_eq_getElem?_getD, List.getElem?_eq_getElem inList,
      Option.getD_some]
  have cell :=
    Program.RunningSum.getElem?_cells_eq_held memory sumList inside
  rw [unwrapped] at cell
  rw [Memory.get, Array.getD_eq_getD_getElem?, cell, Option.getD_some,
    element] at filled
  exact filled

theorem total_of_prepared
    (room : Room inputs .sum memory.size)
    (prepared : Demo.sum.Prepared inputs memory)
    (bound : count ≤ inputs.list.length) :
    total memory sumList count = partialSum inputs.list count := by
  induction count with
  | zero => rfl
  | succ count inductionHypothesis =>
      have inList : count < inputs.list.length := bound
      rw [Program.RunningSum.total_succ, inductionHypothesis inList.le,
        held_of_prepared room prepared inList, partialSum, partialSum,
        List.take_succ_eq_append_getElem inList, List.map_append,
        List.sum_append]
      rfl

end Sums

/-! ## One demo -/

/-- What is left when a demo is over. -/
def Leaves (inputs : Inputs) (demo : Demo) (memory : Memory)
    (final : Storage) : Prop :=
  final.memory.size = memory.size ∧
    ∃ value,
      Answer inputs demo value (final.flags.get .carry) ∧
        ∀ address,
          final.memory.get address =
            if address = demo.result then value else memory.get address

/-- The program of a demo runs from its start to its end without a fault. -/
def Ends (inputs : Inputs) (demo : Demo) (memory : Memory) : Prop :=
  ∃ total,
    Leads demo.program (State.start memory) []
      (Word.saturate demo.program.size) total (demo.Leaves inputs memory)

section Single

variable {inputs : Inputs} {memory : Memory}

theorem Room.missing_eq
    {demo : Demo} (room : demo.Room inputs memory.size) (address : Word)
    (uses : demo.Uses inputs.list.length address) :
    memory.missing address = [] :=
  Memory.missing_of_lt (room.lt uses)

theorem leaves_of_set
    {demo : Demo} {final : Storage} {value : Word} {carry : Bool}
    (room : demo.Room inputs memory.size)
    (stored : final.memory = memory.set demo.result value)
    (carry_eq : final.flags.get .carry = carry)
    (answer : Answer inputs demo value carry) :
    demo.Leaves inputs memory final := by
  have inside := room.lt (uses_result inputs.list.length demo)
  refine ⟨?_, value, ?_, ?_⟩
  · rw [stored, Memory.size_set]
  · rw [carry_eq]
    exact answer
  · intro address
    rw [stored, Memory.get_set]
    by_cases isResult : address = demo.result
    · subst isResult
      rw [if_pos ⟨rfl, inside⟩, if_pos rfl]
    · rw [if_neg fun hit => isResult hit.1.symm, if_neg isResult]

theorem ends_fibonacci
    (room : Room inputs .fibonacci memory.size)
    (prepared : Demo.fibonacci.Prepared inputs memory) :
    Demo.fibonacci.Ends inputs memory := by
  have source_eq : memory.get fibonacciInput = inputs.fibonacci :=
    prepared fibonacciInput (Or.inl rfl)
  have result_eq : memory.get (fibonacciInput + 1) = 0 :=
    prepared (fibonacciInput + 1) (Or.inr rfl)
  have sourceThere := room.missing_eq fibonacciInput (Or.inl rfl)
  have resultThere := room.missing_eq (fibonacciInput + 1) (Or.inr rfl)
  by_cases small : inputs.fibonacci.toNat ≤ 47
  · have lead :=
      Program.Fibonacci.leads_of_fits fibonacciInput (fibonacciInput + 1) memory
    rw [source_eq, sourceThere, resultThere] at lead
    obtain ⟨total, -, lead⟩ := lead small
    refine ⟨total, lead.mono ?_⟩
    rintro final ⟨stored, carry⟩
    have fits := Program.Fibonacci.fib_lt_of_le small
    exact
      leaves_of_set room stored carry
        (.fibonacci small (UInt32.toNat_ofNat_of_lt' fits))
  · have large := Nat.not_le.mp small
    have lead :=
      Program.Fibonacci.leads_of_carry fibonacciInput (fibonacciInput + 1) memory
    rw [source_eq, sourceThere] at lead
    refine ⟨474, (lead large).mono ?_⟩
    rintro final ⟨kept, carry⟩
    refine ⟨congrArg Memory.size kept, 0, ?_, ?_⟩
    · rw [carry]
      exact .fibonacciCarry large
    · intro address
      rw [kept]
      split
      · next isResult =>
          rw [isResult]
          exact result_eq
      · rfl

theorem ends_factorial
    (room : Room inputs .factorial memory.size)
    (prepared : Demo.factorial.Prepared inputs memory) :
    Demo.factorial.Ends inputs memory := by
  have input_eq : memory.get factorialInput = inputs.factorial :=
    prepared factorialInput (Or.inl rfl)
  have lead :=
    Program.Factorial.leads_factorial factorialInput (factorialInput + 1) memory
  rw [input_eq, room.missing_eq factorialInput (Or.inl rfl),
    room.missing_eq (factorialInput + 1) (Or.inr rfl)] at lead
  refine ⟨_, lead.mono ?_⟩
  rintro final ⟨stored, -⟩
  exact leaves_of_set room stored rfl (.factorial UInt32.toNat_ofNat')

theorem missingElements_of_prepared
    (room : Room inputs .sum memory.size) {count : Nat}
    (bound : count ≤ inputs.list.length) :
    Program.RunningSum.missingElements memory sumList count = [] := by
  have enough := room.sum_le
  rw [Program.RunningSum.missingElements, List.flatMap_eq_nil_iff]
  intro index member
  have counted : index < count := List.mem_range.mp member
  have position := room.toNat_position (counted.trans_le bound)
  apply Memory.missing_of_lt
  change (UInt32.ofNat (400 + index)).toNat < memory.size
  omega

theorem partialSum_mono
    {list : List Word} {fewer more : Nat} (le : fewer ≤ more) :
    partialSum list fewer ≤ partialSum list more := by
  have shorter : (list.take fewer).Sublist (list.take more) :=
    (List.take_prefix_take_left le).sublist
  exact
    (shorter.map UInt32.toNat).sum_le_sum fun value _ => Nat.zero_le value

theorem isLeast_of_carry
    {list : List Word} {count : Nat}
    (fits : partialSum list count < 2 ^ 32)
    (carries : 2 ^ 32 ≤ partialSum list (count + 1)) :
    IsLeast {count | 2 ^ 32 ≤ partialSum list count} (count + 1) := by
  refine ⟨carries, ?_⟩
  intro other otherCarries
  by_contra earlier
  have grows : partialSum list other ≤ partialSum list count :=
    partialSum_mono (by omega)
  have tooLarge : 2 ^ 32 ≤ partialSum list other := otherCarries
  omega

theorem ends_sum_of_fits
    (room : Room inputs .sum memory.size)
    (prepared : Demo.sum.Prepared inputs memory)
    (fits : partialSum inputs.list inputs.list.length < 2 ^ 32) :
    Demo.sum.Ends inputs memory := by
  have lead :=
    Program.RunningSum.leads_of_fits sumStart (sumStart + 1)
      (sumStart + 2) memory
  rw [prepared.start_eq, prepared.length_eq room,
    room.missing_eq sumStart (Or.inl rfl),
    room.missing_eq (sumStart + 1) (Or.inr (Or.inl rfl)),
    room.missing_eq (sumStart + 2) (Or.inr (Or.inr (Or.inl rfl))),
    missingElements_of_prepared room le_rfl,
    total_of_prepared room prepared le_rfl] at lead
  refine ⟨_, (lead fits).mono ?_⟩
  rintro final ⟨stored, carry⟩
  exact
    leaves_of_set room stored carry
      (.sum fits (UInt32.toNat_ofNat_of_lt' fits))

theorem ends_sum_of_carry
    (room : Room inputs .sum memory.size)
    (prepared : Demo.sum.Prepared inputs memory)
    (carries : 2 ^ 32 ≤ partialSum inputs.list inputs.list.length) :
    Demo.sum.Ends inputs memory := by
  have start_eq := prepared.start_eq
  rw [← total_of_prepared room prepared le_rfl] at carries
  obtain ⟨rounds, more, roundsFit, least⟩ :=
    Program.RunningSum.exists_isLeast_carry carries
  have roundsCarry :
      2 ^ 32 ≤ Program.RunningSum.total memory sumList (rounds + 1) :=
    least.1
  have lead : Leads (program .sum) (State.start memory) _ _ _ _ :=
    Program.RunningSum.leads_of_carry sumStart (sumStart + 1)
      (sumStart + 2) memory
      (by rw [prepared.length_eq room]; exact more)
      (by rw [start_eq]; exact roundsFit)
      (by rw [start_eq]; exact roundsCarry)
  rw [start_eq,
    room.missing_eq sumStart (Or.inl rfl),
    room.missing_eq (sumStart + 1) (Or.inr (Or.inl rfl)),
    room.missing_eq (sumStart + 2) (Or.inr (Or.inr (Or.inl rfl))),
    missingElements_of_prepared room more,
    total_of_prepared room prepared more] at lead
  rw [total_of_prepared room prepared more.le] at roundsFit
  rw [total_of_prepared room prepared more] at roundsCarry
  refine ⟨_, lead.mono ?_⟩
  rintro final ⟨stored, carry⟩
  exact
    leaves_of_set room stored carry
      (.sumCarry (isLeast_of_carry roundsFit roundsCarry)
        UInt32.toNat_ofNat')

theorem ends_of_prepared
    {demo : Demo} (room : demo.Room inputs memory.size)
    (prepared : demo.Prepared inputs memory) :
    demo.Ends inputs memory := by
  cases demo with
  | fibonacci => exact ends_fibonacci room prepared
  | factorial => exact ends_factorial room prepared
  | sum =>
      by_cases fits : partialSum inputs.list inputs.list.length < 2 ^ 32
      · exact ends_sum_of_fits room prepared fits
      · exact ends_sum_of_carry room prepared (Nat.not_lt.mp fits)

end Single

/-! ## Reports -/

/-- A report on a complete run that found `value`. -/
structure Finds (inputs : Inputs) (demo : Demo) (report : Report)
    (value : Word) : Prop where
  name : report.name = demo.name inputs
  outcome : report.outcome = .halted
  faults : report.faults = 0
  cells : report.cells = [(demo.result, value)]
  answer : Answer inputs demo value (report.flags.get .carry)

/-- The cells of a demo hold what it starts from, and `value` in place of the result. -/
def Filled (inputs : Inputs) (demo : Demo) (value : Word)
    (memory : Memory) : Prop :=
  ∀ address, demo.Uses inputs.list.length address →
    memory.get address =
      if address = demo.result then value else demo.initial inputs address

def Completes (inputs : Inputs) (demo : Demo) (report : Report)
    (memory : Memory) : Prop :=
  ∃ value,
    demo.Finds inputs report value ∧ demo.Filled inputs value memory

theorem achieves_completes
    {inputs : Inputs} {demo : Demo} {size : Nat}
    (room : demo.Room inputs size) (trace : Bool) :
    demo.Achieves ⟨none, trace⟩ inputs (fun demo => demo.Completes inputs)
      size := by
  rintro machine rfl
  have sameSize := machine.size_memory_setCells (demo.cells inputs)
  have filledRoom :
      demo.Room inputs (machine.setCells (demo.cells inputs)).memory.size := by
    rw [sameSize]
    exact room
  have prepared := prepared_setCells room
  have fits := demo.size_program_lt
  obtain ⟨total, lead⟩ := ends_of_prepared filledRoom prepared
  obtain ⟨final, executed, noFaults, finalSize, value, answer, cell⟩ :=
    lead.execute fits trace (demo.name inputs) [demo.result]
  have watched : final.getCell demo.result = value :=
    (cell demo.result).trans (if_pos rfl)
  have shown :
      [(demo.result, final.getCell demo.result)] = [(demo.result, value)] := by
    rw [watched]
  refine
    ⟨final.reset, Report.capture (demo.name inputs) final .halted [demo.result],
      ?_, ⟨value, ?_, ?_⟩, ?_, ?_⟩
  · rw [run, executed]
    rfl
  · exact ⟨rfl, rfl, noFaults, shown, answer⟩
  · intro address uses
    refine (cell address).trans ?_
    rw [prepared address uses]
  · exact finalSize.trans sameSize
  · intro address unused
    have notResult : address ≠ demo.result := by
      rintro rfl
      exact unused (uses_result inputs.list.length demo)
    refine (cell address).trans ?_
    rw [if_neg notResult]
    exact get_memory_setCells_of_not_uses room unused

/-! ## Choices of demos -/

/-- The cells of a demo hold its inputs, and `value` in place of the result. -/
def Holds (inputs : Inputs) (demo : Demo) (value : Word)
    (memory : Memory) : Prop :=
  match demo with
  | fibonacci =>
    memory.get 100 = inputs.fibonacci ∧ memory.get 101 = value
  | factorial =>
    memory.get 200 = inputs.factorial ∧ memory.get 201 = value
  | sum =>
    memory.get 300 = 400 ∧
      (memory.get 301).toNat = inputs.list.length ∧
      memory.get 302 = value ∧
      ∀ (index : Nat) (inList : index < inputs.list.length),
        memory.get (UInt32.ofNat (400 + index)) = inputs.list[index]

theorem Filled.holds
    {inputs : Inputs} {demo : Demo} {value : Word} {memory : Memory}
    {size : Nat} (room : demo.Room inputs size)
    (filled : demo.Filled inputs value memory) :
    demo.Holds inputs value memory := by
  cases demo with
  | fibonacci =>
      exact ⟨filled 100 (Or.inl rfl), filled 101 (Or.inr rfl)⟩
  | factorial =>
      exact ⟨filled 200 (Or.inl rfl), filled 201 (Or.inr rfl)⟩
  | sum =>
      refine ⟨?_, ?_, ?_, ?_⟩
      · exact filled 300 (Or.inl rfl)
      · rw [filled 301 (Or.inr (Or.inl rfl))]
        exact room.toNat_length
      · exact filled 302 (Or.inr (Or.inr (Or.inl rfl)))
      · intro index inList
        have position := room.toNat_position inList
        have element := filled (UInt32.ofNat (400 + index))
          (Or.inr (Or.inr (Or.inr (by omega))))
        have notResult : UInt32.ofNat (400 + index) ≠ sum.result := by
          intro same
          have positions := congrArg UInt32.toNat same
          rw [position] at positions
          change 400 + index = 302 at positions
          omega
        have behind : 400 ≤ (UInt32.ofNat (400 + index)).toNat := by omega
        rw [element, if_neg notResult, initial, if_pos behind, position,
          Nat.add_sub_cancel_left, List.getD_eq_getElem?_getD,
          List.getElem?_eq_getElem inList, Option.getD_some]

end RegisterMachine.Demo
