import RegisterMachine.CommandLine.Response
import RegisterMachine.Proofs.CommandLine.Command

/-!
# When the program fails

Something stands in the way of a command, or it is run and succeeds, whatever faults there are.
What can stand in the way is known from the command, the files and, for demos, the size of the
memory.  All this takes a system that has the memory: else the program is aborted.
-/

namespace RegisterMachine.CommandLine

open Text Numeral

/-! ## What can stand in the way -/

/-- The contexts of what is wrong with a listing, the outermost first. -/
def contexts (error : Listing.Error) : List String :=
  let place := "line " ++ decimal error.line
  match error.cause with
  | .invalidNumber text reason =>
      [place, "invalid number " ++ quote text, reason.message]
  | .unknownMnemonic reason => [place, reason.message]
  | .tooManyOperands found =>
      [place, "expected at most 3 operands, found " ++ decimal found]
  | .unrecognized line => [place ++ ": cannot parse " ++ quote line]

/-- Something stands in the way of the command, and the contexts tell what it is. -/
inductive Obstacle (files : String → FileContent) (dataSize : Nat) :
    Command → List String → Prop
  | shortMemory {choice : Demo.Choice} {inputs : Demo.Inputs} :
      dataSize < choice.requiredCells inputs.list.length →
      Obstacle files dataSize (.demo choice inputs)
        ["demo " ++ choice.title ++ " needs at least " ++
          decimal (choice.requiredCells inputs.list.length) ++
          " data cells, --data-size is " ++ decimal dataSize]
  | missing {path : String} :
      files path = .missing →
      Obstacle files dataSize (.run path)
        ["Failed to read listing " ++ path,
          "No such file or directory (os error 2)"]
  /-- The path leads to a directory, for example. -/
  | unreadable {path reason : String} :
      files path = .unreadable reason →
      Obstacle files dataSize (.run path)
        ["Failed to read listing " ++ path, reason]
  | notText {path : String} {content : ByteArray} :
      files path = .bytes content → ¬ content.IsValidUTF8 →
      Obstacle files dataSize (.run path)
        ["Failed to read listing " ++ path,
          "stream did not contain valid UTF-8"]
  | refused {path text : String} {error : Listing.Error} :
      files path = .bytes text.toUTF8 →
      Listing.parse text = .error error →
      Obstacle files dataSize (.run path) (contexts error)

/-- The response to an obstacle. -/
def failed (chain : List String) : Response :=
  ⟨1, "", "Error: " ++ ": ".intercalate chain ++ "\n"⟩

section Obstacles

variable {files : String → FileContent} {dataSize otherSize : Nat}
  {command : Command} {chain : List String} {invocation : Invocation}
  {response : Response}

/-- The size of the memory stands in the way of demos only. -/
theorem Obstacle.of_dataSize
    (obstacle : Obstacle files dataSize command chain)
    (same :
      ∀ choice inputs, command = .demo choice inputs → otherSize = dataSize) :
    Obstacle files otherSize command chain := by
  cases obstacle with
  | shortMemory short =>
      rw [same _ _ rfl]
      exact .shortMemory short
  | missing absent => exact .missing absent
  | unreadable failure => exact .unreadable failure
  | notText found invalid => exact .notText found invalid
  | refused found wrong => exact .refused found wrong

theorem carryOut_of_checkMemory
    {choice : Demo.Choice} {inputs : Demo.Inputs} {shortage : Demo.Shortage}
    (isDemo : invocation.command = .demo choice inputs)
    (refused :
      Demo.checkMemory invocation.dataSize choice inputs.list.length =
        .error shortage) :
    carryOut files invocation =
      some (Failure.memoryShortage shortage).response := by
  rw [carryOut, isDemo]
  dsimp only
  rw [refused]

theorem carryOut_of_readListing
    {path : String} {failure : Failure}
    (isRun : invocation.command = .run path)
    (refused : readListing path (files path) = .error failure) :
    carryOut files invocation = some failure.response := by
  rw [carryOut, isRun]
  dsimp only
  rw [refused]

theorem readText_of_not_isValidUTF8
    {content : ByteArray} (path : String) (invalid : ¬ content.IsValidUTF8) :
    readText path (.bytes content) =
      .error
        (.unreadableListing path "stream did not contain valid UTF-8") := by
  rw [readText, String.fromUTF8?, dif_neg invalid]

theorem readText_toUTF8 (path text : String) :
    readText path (.bytes text.toUTF8) = .ok text := by
  have valid : text.toUTF8.IsValidUTF8 := text.isValidUTF8
  rw [readText, String.fromUTF8?, dif_pos valid]
  rfl

theorem readListing_toUTF8 (path text : String) :
    readListing path (.bytes text.toUTF8) =
      (Listing.parse text).mapError .invalidListing := by
  rw [readListing, readText_toUTF8]
  rfl

theorem intercalate_contexts (error : Listing.Error) :
    ": ".intercalate (contexts error) = error.message := by
  obtain ⟨line, cause⟩ := error
  -- The equations of these definitions would take long to derive, since their texts come along.
  delta Listing.Error.message Listing.LineError.message
  cases cause with
  | unknownMnemonic => rfl
  | unrecognized text =>
      have joined :
          ": " ++ ("cannot parse " ++ quote text) =
            ": cannot parse " ++ quote text :=
        (String.append_assoc ..).symm
      simp only [contexts, String.intercalate_singleton, String.append_assoc]
      rw [joined]
  | _ =>
      simp only [contexts, String.intercalate_cons_cons,
        String.intercalate_singleton, String.append_assoc]

/-- What is told of a failure are its contexts with colons between them. -/
theorem response_eq_failed
    {failure : Failure} (told : ": ".intercalate chain = failure.message) :
    failure.response = failed chain := by
  rw [failed, told, Failure.response]

theorem carryOut_of_readText
    {path reason : String} (isRun : invocation.command = .run path)
    (refused :
      readText path (files path) = .error (.unreadableListing path reason)) :
    carryOut files invocation =
      some (failed ["Failed to read listing " ++ path, reason]) := by
  have unread :
      readListing path (files path) =
        .error (.unreadableListing path reason) := by
    rw [readListing, refused]
    rfl
  rw [carryOut_of_readListing isRun unread]
  exact congrArg some (response_eq_failed rfl)

theorem carryOut_of_obstacle
    (obstacle :
      Obstacle files invocation.dataSize invocation.command chain) :
    carryOut files invocation = some (failed chain) := by
  generalize isCommand : invocation.command = command at obstacle
  cases obstacle with
  | shortMemory short =>
      rw [carryOut_of_checkMemory isCommand (if_pos short)]
      exact congrArg some (response_eq_failed rfl)
  | missing absent =>
      refine carryOut_of_readText isCommand ?_
      rw [absent, readText]
  | unreadable failure =>
      refine carryOut_of_readText isCommand ?_
      rw [failure, readText]
  | @notText path content found invalid =>
      refine carryOut_of_readText isCommand ?_
      rw [found, readText_of_not_isValidUTF8 path invalid]
  | @refused path text error found wrong =>
      have refused :
          readListing path (files path) = .error (.invalidListing error) := by
        rw [found, readListing_toUTF8, wrong]
        rfl
      rw [carryOut_of_readListing isCommand refused]
      exact congrArg some (response_eq_failed (intercalate_contexts error))

/-- Where nothing stands in the way, the command is run.  No fault makes it fail. -/
theorem succeeds_of_not_obstacle
    (clear :
      ∀ chain,
        ¬ Obstacle files invocation.dataSize invocation.command chain)
    (responded : carryOut files invocation = some response) :
    response.exitCode = 0 ∧ response.errors = "" := by
  generalize isCommand : invocation.command = command at clear
  rw [carryOut, isCommand] at responded
  cases command with
  | demo choice inputs =>
      have checked :
          Demo.checkMemory invocation.dataSize choice inputs.list.length =
            .ok () :=
        if_neg fun short => clear _ (.shortMemory short)
      dsimp only at responded
      rw [checked] at responded
      obtain ⟨run, -, rfl⟩ := Option.map_eq_some_iff.mp responded
      exact ⟨rfl, rfl⟩
  | run path =>
      dsimp only at responded
      cases found : files path with
      | missing => exact absurd (.missing found) (clear _)
      | unreadable reason => exact absurd (.unreadable found) (clear _)
      | bytes content =>
          by_cases valid : content.IsValidUTF8
          · have isText : content = (String.fromUTF8 content valid).toUTF8 := rfl
            rw [isText] at found
            cases parsed : Listing.parse (String.fromUTF8 content valid) with
            | error error => exact absurd (.refused found parsed) (clear _)
            | ok listing =>
                rw [found, readListing_toUTF8, parsed] at responded
                obtain ⟨run, -, rfl⟩ := Option.map_eq_some_iff.mp responded
                exact ⟨rfl, rfl⟩
          · exact absurd (.notText found valid) (clear _)

theorem exitCode_eq_one_iff
    (responded : carryOut files invocation = some response) :
    response.exitCode = 1 ↔
      ∃ chain,
        Obstacle files invocation.dataSize invocation.command chain := by
  constructor
  · intro fails
    apply Classical.byContradiction
    intro clear
    have succeeds := succeeds_of_not_obstacle (not_exists.mp clear) responded
    rw [succeeds.1] at fails
    cases fails
  · rintro ⟨chain, obstacle⟩
    rw [carryOut_of_obstacle obstacle] at responded
    cases responded
    rfl

/-! ## Runs with a limit -/

theorem exists_execute
    {settings : RunSettings} {limit : Nat}
    (limited : settings.maxSteps = some limit) (machine : Machine)
    (name : String) (program : Program) (watch : List Word) :
    ∃ run, machine.execute settings name program watch = some run := by
  obtain ⟨maxSteps, trace⟩ := settings
  cases limited
  exact ⟨_, rfl⟩

theorem exists_runList
    {settings : RunSettings} {limit : Nat}
    (limited : settings.maxSteps = some limit) (inputs : Demo.Inputs)
    (machine : Machine) (demos : List Demo) :
    ∃ run, Demo.runList settings inputs machine demos = some run := by
  induction demos generalizing machine with
  | nil => exact ⟨_, rfl⟩
  | cons demo demos inductionHypothesis =>
      obtain ⟨⟨executed, report⟩, first⟩ :=
        exists_execute limited (machine.setCells (demo.cells inputs))
          (demo.name inputs) demo.program [demo.result]
      obtain ⟨others, rest⟩ := inductionHypothesis executed.reset
      rw [Demo.runList, Demo.run, first, Option.map_some]
      dsimp only [Option.bind_eq_bind, Option.bind_some]
      rw [rest]
      exact ⟨_, rfl⟩

/-- With a limit there is always a response. -/
theorem exists_carryOut
    {limit : Nat} (limited : invocation.settings.maxSteps = some limit)
    (files : String → FileContent) :
    ∃ response, carryOut files invocation = some response := by
  rw [carryOut]
  split
  · next choice inputs _ =>
      split
      · exact ⟨_, rfl⟩
      · obtain ⟨run, ran⟩ :=
          exists_runList limited inputs
            (.create invocation.programSize invocation.dataSize .silent)
            choice.demos
        rw [Demo.Choice.run, ran]
        exact ⟨_, rfl⟩
  · next path _ =>
      split
      · exact ⟨_, rfl⟩
      · next listing _ =>
          obtain ⟨run, ran⟩ :=
            exists_execute limited
              (Machine.setCells
                (.create invocation.programSize invocation.dataSize .silent)
                listing.data)
              path listing.program.toArray listing.watch
          rw [Machine.executeListing, ran]
          exact ⟨_, rfl⟩

end Obstacles

/-! ## Two runs of one command -/

section TwoRuns

variable {files : String → FileContent} {invocation other : Invocation}
  {response otherResponse : Response}
  (same : other.command = invocation.command)
  (sameSize :
    ∀ choice inputs, invocation.command = .demo choice inputs →
      other.dataSize = invocation.dataSize)

include same sameSize

theorem obstacle_iff_of_command_eq {chain : List String} :
    Obstacle files other.dataSize other.command chain ↔
      Obstacle files invocation.dataSize invocation.command chain := by
  rw [same]
  constructor
  · intro obstacle
    exact obstacle.of_dataSize fun choice inputs isDemo =>
      (sameSize choice inputs isDemo).symm
  · intro obstacle
    exact obstacle.of_dataSize sameSize

/-- If one of the runs fails, the other ends too, and with the same response. -/
theorem carryOut_eq_of_fails
    (responded : carryOut files invocation = some response)
    (fails : response.exitCode = 1) :
    carryOut files other = some response := by
  obtain ⟨chain, obstacle⟩ := (exitCode_eq_one_iff responded).mp fails
  have otherObstacle := (obstacle_iff_of_command_eq same sameSize).mpr obstacle
  rw [carryOut_of_obstacle otherObstacle, ← carryOut_of_obstacle obstacle,
    responded]

theorem ends_alike
    (responded : carryOut files invocation = some response)
    (otherResponded : carryOut files other = some otherResponse) :
    otherResponse.exitCode = response.exitCode ∧
      otherResponse.errors = response.errors := by
  by_cases fails : response.exitCode = 1
  · rw [carryOut_eq_of_fails same sameSize responded fails] at otherResponded
    cases otherResponded
    exact ⟨rfl, rfl⟩
  · have clear :
        ∀ chain,
          ¬ Obstacle files invocation.dataSize invocation.command chain :=
      fun chain obstacle =>
        fails ((exitCode_eq_one_iff responded).mpr ⟨chain, obstacle⟩)
    have otherClear (chain : List String) :
        ¬ Obstacle files other.dataSize other.command chain :=
      (not_congr (obstacle_iff_of_command_eq same sameSize)).mpr (clear chain)
    have succeeds := succeeds_of_not_obstacle clear responded
    have otherSucceeds := succeeds_of_not_obstacle otherClear otherResponded
    rw [succeeds.1, succeeds.2]
    exact otherSucceeds

end TwoRuns

/-! ## What a command line comes to -/

section Grants

variable {grants : Nat → Bool} {files : String → FileContent}
  {invocation : Invocation} {response : Response}

theorem respondOn_of_granted (granted : grants invocation.dataSize = true) :
    respondOn grants files invocation = carryOut files invocation :=
  if_pos granted

theorem respondOn_of_refused (refused : grants invocation.dataSize = false) :
    respondOn grants files invocation = none := by
  rw [respondOn, refused]
  rfl

/-- A response means that there was memory for the machine. -/
theorem carryOut_of_respondOn
    (responded : respondOn grants files invocation = some response) :
    carryOut files invocation = some response := by
  cases granted : grants invocation.dataSize with
  | false =>
      rw [respondOn_of_refused granted] at responded
      cases responded
  | true => rwa [respondOn_of_granted granted] at responded

end Grants

/-- What the words of a command line come to on a system that grants memory for some numbers of
cells.  Other words with the same command may differ in all options before it, except that a demo is
to have as much memory. -/
structure RunsOrFails
    (grants : Nat → Bool) (files : String → FileContent)
    (words : List String) (invocation : Invocation) : Prop where
  aborts :
    grants invocation.dataSize = false →
      respondOn grants files invocation = none
  respond_of_obstacle :
    grants invocation.dataSize = true →
      ∀ chain, Obstacle files invocation.dataSize invocation.command chain →
        respondOn grants files invocation =
          some ⟨1, "", "Error: " ++ ": ".intercalate chain ++ "\n"⟩
  exitCode_eq_one_iff :
    ∀ response, respondOn grants files invocation = some response →
      (response.exitCode = 1 ↔
        ∃ chain,
          Obstacle files invocation.dataSize invocation.command chain)
  succeeds :
    ∀ response, respondOn grants files invocation = some response →
      (∀ chain,
        ¬ Obstacle files invocation.dataSize invocation.command chain) →
      response.exitCode = 0 ∧ response.errors = ""
  exists_respond :
    grants invocation.dataSize = true →
      ∀ limit, invocation.settings.maxSteps = some limit →
        ∃ response, respondOn grants files invocation = some response
  independent :
    ∀ otherWords other,
      readArguments otherWords = .ok other →
      commandPart otherWords = commandPart words →
      (∀ choice inputs, invocation.command = .demo choice inputs →
        other.dataSize = invocation.dataSize) →
      ∀ response, respondOn grants files invocation = some response →
        (response.exitCode = 1 → grants other.dataSize = true →
          respondOn grants files other = some response) ∧
          ∀ otherResponse, respondOn grants files other = some otherResponse →
            otherResponse.exitCode = response.exitCode ∧
              otherResponse.errors = response.errors

/-- As far as there is memory for the machine, only the command, the files and, for a demo, the size
of the memory make the program fail, and they tell what it writes then. -/
theorem respond_runsOrFails
    (grants : Nat → Bool) (files : String → FileContent)
    {words : List String} {invocation : Invocation}
    (accepted : readArguments words = .ok invocation) :
    RunsOrFails grants files words invocation where
  aborts := respondOn_of_refused
  respond_of_obstacle granted _ obstacle := by
    rw [respondOn_of_granted granted]
    exact carryOut_of_obstacle obstacle
  exitCode_eq_one_iff _ responded :=
    exitCode_eq_one_iff (carryOut_of_respondOn responded)
  succeeds _ responded clear :=
    succeeds_of_not_obstacle clear (carryOut_of_respondOn responded)
  exists_respond granted _ limited := by
    rw [respondOn_of_granted granted]
    exact exists_carryOut limited files
  independent := by
    intro otherWords other acceptedOther samePart sameSize response responded
    have same := command_eq_of_commandPart_eq accepted acceptedOther samePart
    have carriedOut := carryOut_of_respondOn responded
    constructor
    · intro fails granted
      rw [respondOn_of_granted granted]
      exact carryOut_eq_of_fails same sameSize carriedOut fails
    · intro otherResponse otherResponded
      exact
        ends_alike same sameSize carriedOut
          (carryOut_of_respondOn otherResponded)

/-- Two command lines fail alike for want of one cell.  A division by zero does not make the third
one fail. -/
theorem respond_runsOrFails_oneCellShort :
    let words := ["--data-size", "101", "demo", "fibonacci"]
    let otherWords :=
      ["-tfjson", "--max-steps=3", "--data-size=101", "demo", "fibonacci"]
    let division := ["--max-steps", "5", "run", "division"]
    let files (_ : String) : FileContent := .bytes "DIV 0, 0, 0\n".toUTF8
    let inputs : Demo.Inputs := ⟨6, 5, [10, 20, 30, 40]⟩
    let invocation : Invocation :=
      ⟨256, 101, ⟨none, false⟩, .text, .demo (.only .fibonacci) inputs⟩
    let other : Invocation :=
      ⟨256, 101, ⟨some 3, true⟩, .json, .demo (.only .fibonacci) inputs⟩
    let divides : Invocation :=
      ⟨256, 1024, ⟨some 5, false⟩, .text, .run "division"⟩
    let shortage : Response :=
      ⟨1, "",
        "Error: demo Fibonacci needs at least 102 data cells, --data-size is 101\n"⟩
    readArguments words = .ok invocation ∧
      readArguments otherWords = .ok other ∧
      readArguments division = .ok divides ∧
      respond files invocation = some shortage ∧
      respond files other = some shortage ∧
      ∃ response,
        respond files divides = some response ∧
          response.exitCode = 0 ∧ response.errors = "" := by
  intro words otherWords division files inputs invocation other divides shortage
  have accepted : readArguments words = .ok invocation := rfl
  have otherAccepted : readArguments otherWords = .ok other := rfl
  have divisionAccepted : readArguments division = .ok divides := rfl
  let grants (cells : Nat) := decide (cells ≤ Memory.mostCells)
  have ends := respond_runsOrFails grants files accepted
  have divisionEnds := respond_runsOrFails grants files divisionAccepted
  have told :
      "Error: " ++
          ": ".intercalate
            ["demo " ++ Demo.Choice.title (.only .fibonacci) ++
              " needs at least " ++
              decimal (Demo.Choice.requiredCells (.only .fibonacci) 4) ++
              " data cells, --data-size is " ++ decimal 101] ++
          "\n" =
        "Error: demo Fibonacci needs at least 102 data cells, --data-size is 101\n" := by
    decide
  have fails : respond files invocation = some shortage :=
    (ends.respond_of_obstacle rfl _ (.shortMemory (by decide))).trans
      (congrArg (fun errors => some (Response.mk 1 "" errors)) told)
  have otherFails : respond files other = some shortage :=
    (ends.independent otherWords other otherAccepted rfl (fun _ _ _ => rfl)
      shortage fails).1 rfl rfl
  obtain ⟨response, responded⟩ := divisionEnds.exists_respond rfl 5 rfl
  refine
    ⟨accepted, otherAccepted, divisionAccepted, fails, otherFails, response,
      responded, divisionEnds.succeeds response responded ?_⟩
  intro chain obstacle
  cases obstacle with
  | missing absent => cases absent
  | unreadable failure => cases failure
  | notText found invalid =>
      cases found
      exact invalid (String.isValidUTF8 _)
  | refused found wrong =>
      have sameText := String.toByteArray_inj.mp (FileContent.bytes.inj found)
      rw [← sameText] at wrong
      have parsed :
          Listing.parse "DIV 0, 0, 0\n" =
            .ok ⟨[⟨.div, 0, 0, 0⟩], [], []⟩ := rfl
      rw [parsed] at wrong
      cases wrong

/-- A directory makes the program fail, although it is there and holds nothing that could be no
text or no listing.  And for want of memory there is no failure either, but no response at all. -/
theorem respond_directory :
    let files (_ : String) : FileContent :=
      .unreadable "Is a directory (os error 21)"
    let directory : Invocation :=
      ⟨256, 1024, ⟨none, false⟩, .text, .run "."⟩
    let huge : Invocation :=
      ⟨256, 18446744073709551615, ⟨none, false⟩, .text, .run "."⟩
    readArguments ["run", "."] = .ok directory ∧
      readArguments ["--data-size", "18446744073709551615", "run", "."] =
        .ok huge ∧
      ¬ (∀ response, respond files directory = some response →
          (response.exitCode = 1 ↔
            files "." = .missing ∨
              (∃ content,
                files "." = .bytes content ∧ ¬ content.IsValidUTF8) ∨
              ∃ text error,
                files "." = .bytes text.toUTF8 ∧
                  Listing.parse text = .error error)) ∧
      respond files directory ≠ none ∧
      respond files huge = none := by
  intro files directory huge
  have fails :
      respond files directory =
        some
          ⟨1, "",
            "Error: Failed to read listing .: Is a directory (os error 21)\n"⟩ := by
    decide
  refine ⟨rfl, rfl, ?_, ?_, rfl⟩
  · intro asListed
    have listed := (asListed _ fails).mp rfl
    rcases listed with absent | ⟨_, found, -⟩ | ⟨_, _, found, -⟩
    · cases absent
    · cases found
    · cases found
  · rw [fails]
    exact Option.some_ne_none _

end RegisterMachine.CommandLine
