import RegisterMachine.Proofs.Demo.Answer
import RegisterMachine.Proofs.Program.Footprint

/-!
# The demos do not disturb each other

A demo fills its own cells before it runs, and its program accesses no others.  So what the machine
has run before makes no difference to it, even where a limit has cut an earlier demo short.
-/

namespace RegisterMachine.Demo

open Program.RunningSum (within_runningSum)

variable {inputs : Inputs} {demo : Demo} {settings : RunSettings}

/-! ## One demo on two machines -/

theorem uses_of_mem_cells_runningSum
    {memory : Memory} {address : Word}
    (room : Room inputs .sum memory.size)
    (prepared : Demo.sum.Prepared inputs memory)
    (accessed : Program.RunningSum.cells 300 301 302 memory address) :
    Demo.sum.Uses inputs.list.length address := by
  have enough := room.sum_le
  have addressable := room.addressable
  have start_eq : memory.get 300 = sumList := prepared.start_eq
  have length_eq : (memory.get 301).toNat = inputs.list.length :=
    prepared.length_eq room
  rcases accessed with (atStart | atLength | atResult) | element
  · exact Or.inl atStart
  · exact Or.inr (Or.inl atLength)
  · exact Or.inr (Or.inr (Or.inl atResult))
  · obtain ⟨index, inList, rfl⟩ := element
    rw [length_eq] at inList
    have position : (memory.get 300 + UInt32.ofNat index).toNat = 400 + index := by
      rw [start_eq]
      exact toNat_element (by omega)
    exact Or.inr (Or.inr (Or.inr (by omega)))

/-- The program of a demo accesses the cells of the demo only. -/
theorem within_program
    {memory : Memory}
    (room : demo.Room inputs memory.size)
    (prepared : demo.Prepared inputs memory) :
    (State.start memory).Within demo.program
      (demo.Uses inputs.list.length) := by
  cases demo with
  | fibonacci => exact Program.within_fibonacci 100 101 (State.start memory)
  | factorial => exact Program.within_factorial 200 201 (State.start memory)
  | sum =>
      have within := within_runningSum 300 301 302 memory
      intro count address accesses
      have accessed := within count address accesses
      exact uses_of_mem_cells_runningSum room prepared accessed

theorem exists_run
    {machine : Machine} (room : demo.Room inputs machine.memory.size)
    (settings : RunSettings) :
    ∃ final report,
      demo.run settings inputs machine = some (final, report) := by
  obtain ⟨maxSteps, trace⟩ := settings
  cases maxSteps with
  | some limit => exact ⟨_, _, rfl⟩
  | none =>
      obtain ⟨final, report, ran, -⟩ :=
        achieves_completes room trace machine rfl
      exact ⟨final, report, ran⟩

/-- Only the size of the memory makes a difference to a demo. -/
theorem run_of_size_eq
    {left right leftFinal : Machine} {report : Report}
    (room : demo.Room inputs left.memory.size)
    (same : left.memory.size = right.memory.size)
    (ran : demo.run settings inputs left = some (leftFinal, report)) :
    (∃ rightFinal,
      demo.run settings inputs right = some (rightFinal, report) ∧
        leftFinal.memory.Alike (demo.Uses inputs.list.length)
          rightFinal.memory) ∧
      leftFinal.memory.size = left.memory.size ∧
      ∀ address, ¬ demo.Uses inputs.list.length address →
        leftFinal.memory.get address = left.memory.get address := by
  have rightRoom : demo.Room inputs right.memory.size := same ▸ room
  have leftSize := left.size_memory_setCells (demo.cells inputs)
  have rightSize := right.size_memory_setCells (demo.cells inputs)
  have leftPrepared := prepared_setCells room
  have rightPrepared := prepared_setCells rightRoom
  have alike :
      (left.setCells (demo.cells inputs)).memory.Alike
        (demo.Uses inputs.list.length)
        (right.setCells (demo.cells inputs)).memory := by
    refine ⟨?_, ?_⟩
    · rw [leftSize, rightSize, same]
    · intro address uses
      rw [leftPrepared address uses, rightPrepared address uses]
  have within :
      (State.start (left.setCells (demo.cells inputs)).memory).Within
        demo.program (demo.Uses inputs.list.length) :=
    within_program (leftSize ▸ room) leftPrepared
  have watched :
      ∀ address ∈ [demo.result], demo.Uses inputs.list.length address := by
    intro address member
    rw [List.mem_singleton.mp member]
    exact uses_result inputs.list.length demo
  obtain ⟨⟨executed, leftReport⟩, leftRan, pair_eq⟩ :=
    Option.map_eq_some_iff.mp ran
  rw [Prod.mk.injEq] at pair_eq
  obtain ⟨rfl, rfl⟩ := pair_eq
  obtain ⟨⟨rightFinal, rightRan, alikeFinal⟩, finalSize, kept⟩ :=
    Machine.execute_of_within alike within demo.size_program_lt watched leftRan
  refine ⟨⟨rightFinal.reset, ?_, alikeFinal⟩, ?_, ?_⟩
  · rw [run, rightRan]
    rfl
  · exact finalSize.trans leftSize
  · intro address unused
    exact (kept address unused).trans
      (get_memory_setCells_of_not_uses room unused)

/-! ## All demos on one machine -/

/-- The demo gives the report when nothing else has run on the machine, and then leaves in its cells
what the memory has there. -/
def AsAlone (settings : RunSettings) (inputs : Inputs) (machine : Machine)
    (demo : Demo) (report : Report) (memory : Memory) : Prop :=
  ∃ alone,
    demo.run settings inputs machine = some (alone, report) ∧
      (∀ address, demo.Uses inputs.list.length address →
        memory.get address = alone.getCell address) ∧
      ∀ address, ¬ demo.Uses inputs.list.length address →
        alone.getCell address = machine.getCell address

theorem onOwnCells_asAlone (settings : RunSettings) (machine : Machine) :
    OnOwnCells inputs (AsAlone settings inputs machine) := by
  rintro demo report before after ⟨alone, ran, used, unused⟩ kept
  refine ⟨alone, ran, ?_, unused⟩
  intro address uses
  rw [kept address uses, used address uses]

theorem achieves_asAlone
    (machine : Machine) (room : demo.Room inputs machine.memory.size) :
    demo.Achieves settings inputs (AsAlone settings inputs machine)
      machine.memory.size := by
  intro other sameSize
  obtain ⟨alone, report, ran⟩ := exists_run room settings
  obtain ⟨⟨final, otherRan, alike⟩, -, unused⟩ :=
    run_of_size_eq room sameSize.symm ran
  obtain ⟨-, finalSize, otherUnused⟩ :=
    run_of_size_eq (sameSize ▸ room) sameSize otherRan
  refine
    ⟨final, report, otherRan, ⟨alone, ran, ?_, unused⟩, ?_, otherUnused⟩
  · intro address uses
    exact (alike.get address uses).symm
  · exact finalSize.trans sameSize

theorem run_only
    {machine alone : Machine} {report : Report}
    (ran : demo.run settings inputs machine = some (alone, report)) :
    (Choice.only demo).run settings inputs machine =
      some (alone, [report]) := by
  rw [Choice.run, Choice.demos, runList, ran]
  rfl

/-- With or without a limit, all demos on one new machine give the reports that each of them gives
on a new machine of its own.  Every cell ends as in the run of the demo that uses it, and as 0 if
there is none. -/
theorem run_all_asAlone
    {inputs : Inputs} {dataSize : Nat}
    (accepted :
      checkMemory dataSize .all inputs.list.length = .ok ())
    (addressable : dataSize ≤ 2 ^ 32)
    (settings : RunSettings) (capacity : Nat) (sink : Trace.Sink) :
    let new := Machine.create capacity dataSize sink
    ∃ final reports,
      Choice.all.run settings inputs new = some (final, reports) ∧
        List.Forall₂
          (fun demo report =>
            ∃ alone,
              (Choice.only demo).run settings inputs new =
                  some (alone, [report]) ∧
                (∀ address, demo.Uses inputs.list.length address →
                  final.getCell address = alone.getCell address) ∧
                ∀ address, ¬ demo.Uses inputs.list.length address →
                  alone.getCell address = 0)
          [.fibonacci, .factorial, .sum] reports ∧
        final.memory.size = dataSize ∧
        ∀ address,
          (∀ demo : Demo, ¬ demo.Uses inputs.list.length address) →
          final.getCell address = 0 := by
  intro new
  have created : new.memory.size = dataSize := Memory.size_zeros dataSize
  have clear : ∀ address, new.getCell address = 0 :=
    Memory.get_zeros dataSize
  have room :
      ∀ demo ∈ Choice.all.demos, demo.Room inputs new.memory.size := by
    intro demo member
    rw [created]
    exact .of_checkMemory accepted addressable member
  obtain ⟨final, reports, ran, asAlone, finalSize, unchanged⟩ :=
    runList_of_achieves (onOwnCells_asAlone settings new)
      (fun demo member => achieves_asAlone new (room demo member))
      (nodup_demos .all) rfl
  refine ⟨final, reports, ran, asAlone.imp ?_, finalSize.trans created, ?_⟩
  · rintro demo report ⟨alone, ranAlone, used, unused⟩
    refine ⟨alone, run_only ranAlone, used, ?_⟩
    intro address notUsed
    exact (unused address notUsed).trans (clear address)
  · intro address notUsed
    exact (unchanged address fun demo _ => notUsed demo).trans (clear address)

/-- Seven instructions are too few for any of the demos. -/
theorem run_all_asAlone_cutShort :
    let inputs : Inputs := ⟨20, 5, [1, 2, 3]⟩
    let settings : RunSettings := ⟨some 7, true⟩
    let new := Machine.create 4 403 .silent
    checkMemory 403 .all inputs.list.length = .ok () ∧
      ∃ final first second third alone,
        Choice.all.run settings inputs new =
            some (final, [first, second, third]) ∧
          first.outcome = .stepLimit ∧
          (Choice.only .sum).run settings inputs new = some (alone, [third]) ∧
          final.getCell 402 = alone.getCell 402 ∧
          alone.getCell 100 = 0 := by
  intro inputs settings new
  have accepted :
      checkMemory 403 .all inputs.list.length = .ok () := by decide
  obtain ⟨final, reports, ran, asAlone, -, -⟩ :=
    run_all_asAlone accepted (by decide) settings 4 .silent
  cases asAlone with
  | @cons _ first _ _ isFirst asAlone =>
  cases asAlone with
  | @cons _ second _ _ isSecond asAlone =>
  cases asAlone with
  | @cons _ third _ _ isThird asAlone =>
  cases asAlone
  have outcomes :
      (Choice.all.run settings inputs new).map
          (fun ended => ended.2.map Report.outcome) =
        some [.stepLimit, .stepLimit, .stepLimit] := by
    decide +kernel
  rw [ran] at outcomes
  obtain ⟨alone, ranAlone, used, unused⟩ := isThird
  refine
    ⟨accepted, final, first, second, third, alone, ran, ?_, ranAlone, ?_, ?_⟩
  · exact (List.cons.inj (Option.some.inj outcomes)).1
  · exact used 402 (by decide)
  · exact unused 100 (by decide)

end RegisterMachine.Demo
