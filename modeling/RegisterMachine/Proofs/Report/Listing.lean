import RegisterMachine.Proofs.Demo.Layout
import RegisterMachine.Proofs.Listing.Render
import RegisterMachine.Proofs.Report.Execute
import RegisterMachine.Proofs.Report.Limits

/-!
# Reports on listings

A listing runs on a new machine whose memory its lines have filled, a later line for a cell
replacing an earlier one.  The report shows the watched cells in the order of their lines, and its
limit cuts the run short or leaves it alone.
-/

namespace RegisterMachine

open Trace

/-! ## What the lines say -/

namespace Listing

variable {text : String} {listing : Listing}

/-- What the lines of a text say, in order. -/
def said (text : String) : List Item :=
  (Text.lines text.toList).filterMap fun line => (parseLine line).toOption.join

theorem items_of_parseLines
    {number : Nat} {written : List (List Char)} {items : List Item}
    (read : parseLines number written = .ok items) :
    items = written.filterMap fun line => (parseLine line).toOption.join := by
  induction written generalizing number items with
  | nil =>
      cases read
      rfl
  | cons line written inductionHypothesis =>
      rw [parseLines] at read
      split at read
      · cases read
      · next item lineRead =>
          split at read
          · cases read
          · next later rest =>
              cases read
              rw [List.filterMap_cons, lineRead, ← inductionHypothesis rest]
              cases item <;> rfl

theorem eq_of_parse (parsed : parse text = .ok listing) :
    listing =
      ⟨(said text).filterMap Item.instruction?,
        (said text).filterMap Item.data?,
        (said text).filterMap Item.watch?⟩ := by
  unfold parse at parsed
  cases read : parseLines 1 (Text.lines text.toList) with
  | error error =>
      rw [read] at parsed
      cases parsed
  | ok items =>
      rw [read] at parsed
      cases parsed
      rw [items_of_parseLines read]
      exact ofItems_eq (said text)

end Listing

/-! ## The machine at the start -/

/-- The listing without the data for cells that a memory of `dataSize` cells does not have. -/
def Listing.within (dataSize : Nat) (listing : Listing) : Listing :=
  { listing with
      data := listing.data.filter fun cell => cell.1.toNat < dataSize }

/-- A machine is about to run what lines say, with the data that they give. -/
structure StartsFrom
    (items : List Listing.Item) (dataSize : Nat) (start : Machine) : Prop where
  program : start.program = (items.filterMap Listing.Item.instruction?).toArray
  state : start.state = State.start start.memory
  size_memory : start.memory.size = dataSize
  /-- An earlier line for the cell does not count. -/
  getCell_of_last :
    ∀ before address value after,
      items = before ++ .data address value :: after →
        (∀ later, .data address later ∉ after) →
          address.toNat < dataSize →
            start.getCell address = value
  getCell_of_none :
    ∀ address,
      (∀ value, .data address value ∉ items) → start.getCell address = 0
  getCell_outside :
    ∀ address, dataSize ≤ address.toNat → start.getCell address = 0

namespace Machine

/-- The machine as it is when a listing starts. -/
def started (machine : Machine) (trace : Bool) (listing : Listing) : Machine :=
  ((machine.setCells listing.data).setSink (.trace trace #[])).load
    listing.program.toArray

theorem executeListing_eq
    (machine : Machine) (maxSteps : Option Nat) (trace : Bool) (name : String)
    (listing : Listing) :
    machine.executeListing ⟨maxSteps, trace⟩ name listing =
      (machine.started trace listing).reported name listing.watch maxSteps :=
  rfl

theorem started_within
    (machine : Machine) (trace : Bool) (listing : Listing) :
    machine.started trace (listing.within machine.memory.size) =
      machine.started trace listing := by
  unfold started Listing.within
  rw [setCells_filter]

theorem ne_of_mem_data
    {items : List Listing.Item} {address : Word}
    (unwritten : ∀ value, .data address value ∉ items) :
    ∀ cell ∈ items.filterMap Listing.Item.data?, cell.1 ≠ address := by
  rintro cell member rfl
  obtain ⟨item, inItems, isData⟩ := List.mem_filterMap.mp member
  cases item with
  | data address value =>
      cases isData
      exact unwritten value inItems
  | _ => cases isData

/-- The data of some items fill a memory of zeros. -/
theorem startsFrom_of_new
    {new : Machine} {items : List Listing.Item} {watch : List Word}
    (zeros : ∀ address, new.getCell address = 0) (trace : Bool) :
    StartsFrom items new.memory.size
      (new.started trace
        ⟨items.filterMap Listing.Item.instruction?,
          items.filterMap Listing.Item.data?, watch⟩) where
  program := rfl
  state := rfl
  size_memory := size_memory_setCells new _
  getCell_of_last := by
    intro before address value after split last inside
    have data_eq :
        items.filterMap Listing.Item.data? =
          before.filterMap Listing.Item.data? ++
            (address, value) :: after.filterMap Listing.Item.data? := by
      rw [split, List.filterMap_append]
      rfl
    rw [data_eq]
    exact
      getCell_setCells_of_last inside (ne_of_mem_data last)
        (before.filterMap Listing.Item.data?) value
  getCell_of_none := by
    intro address unwritten
    exact
      (getCell_setCells_of_unwritten (ne_of_mem_data unwritten)).trans
        (zeros address)
  getCell_outside := by
    intro address outside
    have size_eq :=
      size_memory_setCells new (items.filterMap Listing.Item.data?)
    exact Memory.get_of_size_le (size_eq.trans_le outside)

theorem size_memory_of_reported
    {start final : Machine} {name : String} {watch : List Word}
    {maxSteps : Option Nat} {report : Report}
    (fits : start.program.size < 2 ^ 32)
    (ran : start.reported name watch maxSteps = some (final, report)) :
    final.memory.size = start.memory.size := by
  obtain ⟨⟨halted, outcome⟩, halts, captured⟩ := Option.map_eq_some_iff.mp ran
  rw [Prod.mk.injEq] at captured
  obtain ⟨rfl, -⟩ := captured
  obtain ⟨count, rfl, -⟩ := exists_advance_of_runWithin fits halts
  exact State.size_memory_after start.program count start.state

end Machine

/-! ## All limits -/

/-- The reports on a listing for all limits and for none. -/
structure Listing.Runs
    (text : String) (listing : Listing) (dataSize : Nat) (machine : Machine)
    (name : String) (trace : Bool) : Prop where
  start :
    StartsFrom (said text) dataSize (machine.started trace listing)
  run_eq :
    ∀ maxSteps,
      machine.executeListing ⟨maxSteps, trace⟩ name listing =
        (machine.started trace listing).reported name
          ((said text).filterMap Item.watch?) maxSteps
  /-- Data for a cell that does not exist changes no report. -/
  within :
    ∀ maxSteps,
      machine.executeListing ⟨maxSteps, trace⟩ name
          (listing.within dataSize) =
        machine.executeListing ⟨maxSteps, trace⟩ name listing
  limited :
    ∀ limit,
      ∃ final report,
        machine.executeListing ⟨some limit, trace⟩ name listing =
            some (final, report) ∧
          Limited listing.program.length
            (fun maxSteps =>
              machine.executeListing ⟨maxSteps, trace⟩ name listing)
            limit final report
  unlimited :
    ∀ final report,
      machine.executeListing ⟨none, trace⟩ name listing =
          some (final, report) →
        ∃ limit,
          machine.executeListing ⟨some limit, trace⟩ name listing =
              some (final, report) ∧
            report.outcome = .halted
  cells :
    ∀ maxSteps final report,
      machine.executeListing ⟨maxSteps, trace⟩ name listing =
          some (final, report) →
        report.cells =
            ((said text).filterMap Item.watch?).map
              (fun address => (address, final.getCell address)) ∧
          ∀ address : Word,
            dataSize ≤ address.toNat → final.getCell address = 0

theorem Listing.runs_of_zeros
    {text : String} {listing : Listing} {new : Machine}
    (parsed : parse text = .ok listing)
    (fits : listing.program.length < 2 ^ 32)
    (zeros : ∀ address, new.getCell address = 0)
    (name : String) (trace : Bool) :
    Runs text listing new.memory.size new name trace := by
  have listing_eq := eq_of_parse parsed
  have starts :
      StartsFrom (said text) new.memory.size (new.started trace listing) := by
    rw [listing_eq]
    exact Machine.startsFrom_of_new zeros trace
  have watch_eq : listing.watch = (said text).filterMap Item.watch? :=
    congrArg Listing.watch listing_eq
  have startFits : (new.started trace listing).program.size < 2 ^ 32 := fits
  exact
    { start := starts
      run_eq := by
        intro maxSteps
        rw [← watch_eq]
        rfl
      within := by
        intro maxSteps
        rw [Machine.executeListing_eq, Machine.started_within]
        rfl
      limited := Machine.limited_reported startFits rfl
      unlimited := fun _ _ => Machine.exists_limit_of_reported_none startFits
      cells := by
        intro maxSteps final report ran
        have final_size := Machine.size_memory_of_reported startFits ran
        rw [starts.size_memory] at final_size
        obtain ⟨run, -, captured⟩ := Option.map_eq_some_iff.mp ran
        rw [Prod.mk.injEq] at captured
        obtain ⟨rfl, rfl⟩ := captured
        refine ⟨?_, ?_⟩
        · rw [← watch_eq]
          rfl
        · intro address outside
          exact Memory.get_of_size_le (final_size.trans_le outside) }

/-- A text that is a listing runs as it is written, on every new machine. -/
theorem Listing.runs_of_parse
    {text : String} {listing : Listing}
    (parsed : parse text = .ok listing)
    (fits : listing.program.length < 2 ^ 32)
    (capacity dataSize : Nat) (sink : Sink) (name : String) (trace : Bool) :
    Runs text listing dataSize (Machine.create capacity dataSize sink) name
      trace := by
  have zeros (address : Word) :
      (Machine.create capacity dataSize sink).getCell address = 0 :=
    Memory.get_zeros dataSize address
  have runs := runs_of_zeros parsed fits zeros name trace
  have size_eq : (Machine.create capacity dataSize sink).memory.size = dataSize :=
    Memory.size_zeros dataSize
  rwa [size_eq] at runs

/-- Two lines give a cell its value, and the limit is just enough. -/
theorem Listing.runs_of_parse_twice :
    let text := ".data 1 5\n.data 1 6\n.watch 9\n.watch 1\nHALT"
    let listing : Listing := ⟨[Instruction.halt], [(1, 5), (1, 6)], [9, 1]⟩
    let machine := Machine.create 8 4 .silent
    let run (maxSteps : Option Nat) :=
      machine.executeListing ⟨maxSteps, false⟩ "twice" listing
    parse text = .ok listing ∧
      listing.program.length < 2 ^ 32 ∧
      (machine.started false listing).getCell 1 = 6 ∧
      ∃ final report,
        run (some 1) = some (final, report) ∧
          report.outcome = .halted ∧
          report.cells = [(9, 0), (1, 6)] ∧
          run (some 7) = some (final, report) ∧
          run none = some (final, report) := by
  intro text listing machine run
  have parsed : parse text = .ok listing := by decide
  have fits : listing.program.length < 2 ^ 32 := by decide
  have runs : Runs text listing 4 machine "twice" false :=
    runs_of_parse parsed fits 8 4 .silent "twice" false
  have said_eq :
      said text =
        [.data 1 5, .data 1 6, .watch 9, .watch 1,
          .instruction Instruction.halt] := by
    decide
  have started : (machine.started false listing).getCell 1 = 6 :=
    runs.start.getCell_of_last [.data 1 5] 1 6
      [.watch 9, .watch 1, .instruction Instruction.halt] said_eq
      (by simp) (by decide)
  obtain ⟨final, report, ran, limited⟩ := runs.limited 1
  have shown :
      (run (some 1)).map (fun run => (run.2.outcome, run.2.cells)) =
        some (.halted, [(9, 0), (1, 6)]) := by
    decide
  change run (some 1) = some (final, report) at ran
  rw [ran] at shown
  obtain ⟨halted, cells⟩ := Prod.mk.inj (Option.some.inj shown)
  exact
    ⟨parsed, fits, started, final, report, ran, halted, cells,
      limited.same_later halted 7 (by decide), limited.same_unlimited halted⟩

end RegisterMachine
