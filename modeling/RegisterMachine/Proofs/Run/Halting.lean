import Mathlib.Data.Fintype.BigOperators
import Mathlib.Data.Fintype.Pigeonhole
import RegisterMachine.Proofs.Run.Steps

/-!
# Halting runs

A state is decided by its counter, registers, flags and memory cells, so a run that halts has fewer
steps than these can take values: otherwise it would come back to a state it has been in.  Hence
the rounds of `Machine.run` outlast every run that halts, and `Machine.run`, `Machine.runLimit` and
the clock tell the same story, `Machine.HaltsAfter`.
-/

namespace RegisterMachine

namespace State

variable {program : Program} {left right state : State}

/-! ## States that go on alike -/

/-- Equal but for the clock. -/
def Agrees (left right : State) : Prop :=
  left.toStorage = right.toStorage ∧ left.counter = right.counter

theorem Agrees.ended
    (agrees : left.Agrees right) (ended : left.Ended program) :
    right.Ended program := by
  unfold Ended at ended ⊢
  rw [← agrees.2]
  exact ended

theorem Agrees.step (agrees : left.Agrees right) :
    (left.step program).state.Agrees (right.step program).state := by
  obtain ⟨storage, counter, leftClock⟩ := left
  obtain ⟨rightStorage, rightCounter, rightClock⟩ := right
  obtain ⟨sameStorage, sameCounter⟩ := agrees
  dsimp only at sameStorage sameCounter
  subst sameStorage sameCounter
  unfold State.step
  dsimp only
  cases program[counter.toNat]? with
  | none => exact ⟨rfl, rfl⟩
  | some instruction => exact ⟨rfl, rfl⟩

theorem Agrees.after (agrees : left.Agrees right) (count : Nat) :
    (left.after program count).Agrees (right.after program count) := by
  induction count generalizing left right with
  | zero => exact agrees
  | succ count inductionHypothesis =>
      exact inductionHypothesis agrees.step

/-! ## Counting states -/

instance : Fintype Flag :=
  Fintype.ofList Flag.all (by intro flag; cases flag <;> decide)

/-- All that decides how a run goes on, for a memory of `size` cells. -/
abbrev Fingerprint (size : Nat) : Type :=
  Fin (2 ^ 32) × (Register → Fin (2 ^ 32)) × (Flag → Bool) ×
    (Fin size → Fin (2 ^ 32))

def fingerprint (size : Nat) (state : State) : Fingerprint size :=
  (state.counter.toFin,
    fun register => (state.registers.get register).toFin,
    state.flags.get,
    fun cell => (state.memory.cells.getD cell 0).toFin)

theorem card_fingerprint (size : Nat) :
    Fintype.card (Fingerprint size) =
      2 ^ (32 * (1 + registerCount + size) + Flag.all.length) := by
  have flags : Fintype.card Flag = Flag.all.length := rfl
  rw [Fintype.card_prod, Fintype.card_prod, Fintype.card_prod,
    Fintype.card_fun, Fintype.card_fun, Fintype.card_fun,
    Fintype.card_fin, Fintype.card_fin, Fintype.card_fin,
    Fintype.card_bool, flags, ← pow_mul, ← pow_mul, ← pow_add,
    ← pow_add, ← pow_add]
  congr 1
  omega

theorem agrees_of_fingerprint_eq
    {size : Nat}
    (leftSize : left.memory.size = size)
    (rightSize : right.memory.size = size)
    (same : left.fingerprint size = right.fingerprint size) :
    left.Agrees right := by
  obtain ⟨⟨leftRegisters, leftFlags, ⟨leftCells⟩⟩, leftCounter, _⟩ := left
  obtain ⟨⟨rightRegisters, rightFlags, ⟨rightCells⟩⟩, rightCounter, _⟩ :=
    right
  simp only [fingerprint, Prod.mk.injEq] at same
  obtain ⟨sameCounter, sameRegisters, sameFlags, sameCells⟩ := same
  have counterEqual : leftCounter = rightCounter :=
    UInt32.toFin_inj.mp sameCounter
  have registersEqual : leftRegisters = rightRegisters :=
    RegisterFile.ext_get fun register =>
      UInt32.toFin_inj.mp (congrFun sameRegisters register)
  have flagsEqual : leftFlags = rightFlags :=
    Flags.ext_get (congrFun sameFlags)
  have cellsEqual : leftCells = rightCells := by
    apply Array.ext
    · exact leftSize.trans rightSize.symm
    · intro index leftInside rightInside
      have inside : index < size := leftSize ▸ leftInside
      have cell :=
        UInt32.toFin_inj.mp (congrFun sameCells ⟨index, inside⟩)
      simpa [Array.getD_eq_getD_getElem?, leftInside, rightInside] using
        cell
  subst registersEqual flagsEqual cellsEqual counterEqual
  exact ⟨rfl, rfl⟩

/-- A run that halts is shorter than the number of states. -/
theorem count_lt_of_ended
    {count : Nat}
    (runs : state.Runs program count)
    (ended : (state.after program count).Ended program) :
    count <
      2 ^ (32 * (1 + registerCount + state.memory.size) +
        Flag.all.length) := by
  by_contra tooLong
  have crowded :
      Fintype.card (Fingerprint state.memory.size) <
        Fintype.card (Fin (count + 1)) := by
    rw [card_fingerprint, Fintype.card_fin]
    omega
  obtain ⟨one, other, different, same⟩ :=
    Fintype.exists_ne_map_eq_of_card_lt
      (fun index : Fin (count + 1) =>
        (state.after program index).fingerprint state.memory.size)
      crowded
  -- The later of the two states ends the run, and the earlier one would do so too early.
  have noReturn :
      ∀ earlier later : Fin (count + 1), earlier < later →
        (state.after program earlier).fingerprint state.memory.size ≠
          (state.after program later).fingerprint state.memory.size := by
    intro earlier later isEarlier sameFingerprint
    have sameState :
        (state.after program later).Agrees
          (state.after program earlier) :=
      agrees_of_fingerprint_eq (size_memory_after program later state)
        (size_memory_after program earlier state) sameFingerprint.symm
    have agrees :
        ((state.after program later).after program
          (count - later)).Agrees _ :=
      sameState.after (count - later)
    rw [← after_add, ← after_add,
      Nat.add_sub_cancel' (Nat.le_of_lt_succ later.isLt)] at agrees
    have isEarlier : earlier.val < later.val := isEarlier
    have laterBound : later.val < count + 1 := later.isLt
    exact runs _ (by omega) (agrees.ended ended)
  rcases Fin.lt_or_lt_of_ne different with before | before
  · exact noReturn one other before same
  · exact noReturn other one before same.symm

end State

namespace Machine

variable {machine : Machine}

/-- The machine halts after exactly `count` instructions, and is `final` then. -/
structure HaltsAfter
    (machine : Machine) (count : Nat) (final : Machine) : Prop where
  run : machine.run = some final
  runLimit_of_le :
    ∀ limit, count ≤ limit → machine.runLimit limit = (final, .halted)
  runLimit_of_lt :
    ∀ limit, limit < count → (machine.runLimit limit).2 = .stepLimit
  steps : final.state.steps = (machine.state.steps + count) % 2 ^ 64
  status : final.status = .halted

theorem advance_eq_of_ended
    {count limit : Nat}
    (ended : (machine.advance count).state.Ended machine.program)
    (enough : count ≤ limit) :
    machine.advance limit = machine.advance count := by
  rw [← Nat.add_sub_cancel' enough, advance_add,
    advance_of_ended ended]

theorem steps_of_rounds_succ (rounds limit : Nat) :
    (2 ^ (rounds + 1) - 1) * limit =
      limit + (2 ^ rounds - 1) * (2 * limit) := by
  have positive := Nat.two_pow_pos rounds
  have odd : 2 ^ (rounds + 1) - 1 = 1 + (2 ^ rounds - 1) * 2 := by
    rw [pow_succ]
    omega
  rw [odd, Nat.add_mul, Nat.one_mul, Nat.mul_assoc]

theorem runRounds_eq_advance
    (rounds : Nat) {limit count : Nat} {machine : Machine}
    (fits : machine.program.size < 2 ^ 32)
    (ended : (machine.advance count).state.Ended machine.program)
    (positive : 0 < rounds)
    (enough : count ≤ (2 ^ rounds - 1) * limit) :
    runRounds rounds limit machine = some (machine.advance count) := by
  induction rounds generalizing limit count machine with
  | zero => omega
  | succ rounds inductionHypothesis =>
      rw [runRounds, runLimit_eq_advance limit machine fits]
      by_cases inFirst : count ≤ limit
      · have same := advance_eq_of_ended ended inFirst
        have halted :=
          (outcome_eq_halted_iff (machine.advance count)).mpr ended
        rw [same, halted]
      · have split : limit + (count - limit) = count := by omega
        have shorter :
            ((machine.advance limit).advance (count - limit)) =
              machine.advance count := by
          rw [← advance_add, split]
        cases outcome : (machine.advance limit).outcome with
        | halted =>
            have stopped :=
              (outcome_eq_halted_iff (machine.advance limit)).mp outcome
            rw [← shorter, advance_of_ended stopped]
        | stepLimit =>
            rw [steps_of_rounds_succ] at enough
            have more : 0 < rounds := by
              rcases Nat.eq_zero_or_pos rounds with last | more
              · subst last
                omega
              · exact more
            dsimp only
            rw [← shorter] at ended ⊢
            exact inductionHypothesis fits ended more (by omega)

/-- Steps that each run an instruction and that end a run are all of it. -/
theorem haltsAfter_of_runs
    (fits : machine.program.size < 2 ^ 32) {count : Nat}
    (runs : machine.state.Runs machine.program count)
    (ended : (machine.advance count).state.Ended machine.program) :
    machine.HaltsAfter count (machine.advance count) where
  run := by
    have short : count < 2 ^ machine.stateBits :=
      State.count_lt_of_ended runs ended
    refine
      runRounds_eq_advance (machine.stateBits + 1) fits ended
        (Nat.succ_pos machine.stateBits) ?_
    rw [pow_succ]
    omega
  runLimit_of_le limit enough := by
    have halted :=
      (outcome_eq_halted_iff (machine.advance count)).mpr ended
    rw [runLimit_eq_advance limit machine fits,
      advance_eq_of_ended ended enough, halted]
  runLimit_of_lt limit tooFew := by
    have ready :=
      (status_eq_ready_iff (machine.advance limit)).mpr
        (runs limit tooFew)
    rw [runLimit_eq_advance limit machine fits]
    simp only [outcome, ready]
  steps := State.steps_after runs
  status := (status_eq_halted_iff (machine.advance count)).mpr ended

end Machine

end RegisterMachine
