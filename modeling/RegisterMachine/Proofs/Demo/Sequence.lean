import Mathlib.Data.List.Forall2
import RegisterMachine.Proofs.Demo.Layout

/-!
# Demos one after the other

What a single demo leaves in its own cells is still there when other demos have run after it.
-/

namespace RegisterMachine.Demo

/-- A statement about a demo that looks at no cells but those of the demo. -/
def OnOwnCells (inputs : Inputs) (property : Demo → Report → Memory → Prop) : Prop :=
  ∀ demo report before after,
    property demo report before →
    (∀ address, demo.Uses inputs.list.length address →
      after.get address = before.get address) →
    property demo report after

/-- A demo has an answer on every machine with `size` memory cells.  It changes no cells but its own,
and `property` holds of its report and the memory that it leaves. -/
def Achieves (settings : RunSettings) (inputs : Inputs)
    (property : Demo → Report → Memory → Prop) (size : Nat) (demo : Demo) : Prop :=
  ∀ machine : Machine, machine.memory.size = size →
    ∃ final report,
      demo.run settings inputs machine = some (final, report) ∧
        property demo report final.memory ∧
        final.memory.size = size ∧
        ∀ address, ¬ demo.Uses inputs.list.length address →
          final.memory.get address = machine.memory.get address

variable {settings : RunSettings} {inputs : Inputs} {size : Nat}
variable {property : Demo → Report → Memory → Prop} {demos : List Demo}

/-- What holds of each demo holds of all of them when they have run one after the other. -/
theorem runList_of_achieves
    (onOwnCells : OnOwnCells inputs property)
    (each : ∀ demo ∈ demos, demo.Achieves settings inputs property size)
    (different : demos.Nodup)
    {machine : Machine} (size_eq : machine.memory.size = size) :
    ∃ final reports,
      runList settings inputs machine demos = some (final, reports) ∧
        List.Forall₂ (fun demo report => property demo report final.memory)
          demos reports ∧
        final.memory.size = size ∧
        ∀ address,
          (∀ demo ∈ demos, ¬ demo.Uses inputs.list.length address) →
          final.memory.get address = machine.memory.get address := by
  induction demos generalizing machine with
  | nil => exact ⟨machine, [], rfl, .nil, size_eq, fun _ _ => rfl⟩
  | cons demo rest inductionHypothesis =>
      obtain ⟨notInRest, restDifferent⟩ := List.nodup_cons.mp different
      obtain ⟨middle, report, ran, holdsNow, middleSize, middleKeeps⟩ :=
        each demo List.mem_cons_self machine size_eq
      obtain ⟨final, reports, restRan, restHolds, finalSize, finalKeeps⟩ :=
        inductionHypothesis
          (fun other member => each other (List.mem_cons_of_mem demo member))
          restDifferent middleSize
      -- No later demo has a cell of this one.
      have stillThere :
          ∀ address, demo.Uses inputs.list.length address →
            final.memory.get address = middle.memory.get address := by
        intro address uses
        apply finalKeeps
        intro other member otherUses
        have same := uses.unique otherUses
        exact notInRest (same ▸ member)
      have headHolds : property demo report final.memory :=
        onOwnCells demo report middle.memory final.memory holdsNow stillThere
      refine ⟨final, report :: reports, ?_, ?_, finalSize, ?_⟩
      · rw [runList, ran]
        dsimp only [Option.bind_eq_bind, Option.bind_some]
        rw [restRan]
        rfl
      · exact .cons headHolds restHolds
      · intro address unused
        have unusedHead := unused demo List.mem_cons_self
        have unusedRest :
            ∀ other ∈ rest, ¬ other.Uses inputs.list.length address :=
          fun other member => unused other (List.mem_cons_of_mem demo member)
        exact (finalKeeps address unusedRest).trans
          (middleKeeps address unusedHead)

theorem nodup_demos (choice : Choice) : choice.demos.Nodup := by
  cases choice with
  | only demo => exact List.pairwise_singleton _ demo
  | all => decide

end RegisterMachine.Demo
