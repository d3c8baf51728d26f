import Mathlib.Tactic.SplitIfs
import RegisterMachine.CommandLine.Arguments
import RegisterMachine.Proofs.Result

/-!
# Where the command stands

No option before the command takes the name of a command as its value.  So the first word that is
such a name is the command, and what stands before it makes no difference to the command that is
read.
-/

namespace RegisterMachine.CommandLine

namespace Grammar

variable {σ : Type} {grammar : Grammar σ}

/-! ## Names that are no values -/

/-- The names of subcommands are no values of the option. -/
def Refuses (grammar : Grammar σ) (read : Reader σ) : Prop :=
  ∀ name ∈ grammar.subcommands, ∀ settings result,
    read name settings ≠ .ok result

/-- Options and their values are told from the names of subcommands. -/
structure Separates (grammar : Grammar σ) : Prop where
  noOperand : grammar.operand = none
  noHyphen :
    ∀ name ∈ grammar.subcommands, ∀ rest, name.toList ≠ '-' :: rest
  long :
    ∀ name read, grammar.long name = .valued read → grammar.Refuses read
  short :
    ∀ name read, grammar.short name = .valued read → grammar.Refuses read

/-- No operand may come, and no name of a subcommand would be a value of the option that was read
last. -/
structure Open (grammar : Grammar σ) (progress : Progress σ) : Prop where
  noOperand : progress.operand = none
  refuses :
    ∀ read value, progress.pending = some (read, value) →
      grammar.Refuses read

/-- The option that was read last has taken the name of a subcommand. -/
def Spoilt (grammar : Grammar σ) (progress : Progress σ) : Prop :=
  ∃ read name,
    progress.pending = some (read, some name) ∧
      name ∈ grammar.subcommands

variable {progress next settled : Progress σ} {read : Reader σ}
  {word : String} {words : List String}

theorem Separates.open_start (separates : grammar.Separates) (settings : σ) :
    grammar.Open (grammar.start settings) where
  noOperand := separates.noOperand
  refuses := nofun

/-- A spoilt option is never completed. -/
theorem Open.resolve_ne_ok
    (isOpen : grammar.Open progress) (spoilt : grammar.Spoilt progress) :
    progress.resolve ≠ .ok settled := by
  obtain ⟨read, name, isPending, isName⟩ := spoilt
  intro resolved
  rw [Progress.resolve, isPending] at resolved
  obtain ⟨result, isRead, -⟩ := bind_eq_ok_iff.mp resolved
  exact isOpen.refuses _ _ isPending name isName _ result isRead

/-! ## One word -/

/-- What was read last has been completed, and what has begun since takes no name of a
subcommand. -/
structure Renews (grammar : Grammar σ) (progress next : Progress σ) : Prop where
  resolved : ∃ settled, progress.resolve = .ok settled
  isOpen : grammar.Open next

theorem eq_of_resolve (resolved : progress.resolve = .ok settled) :
    settled.operand = progress.operand ∧ settled.pending = none := by
  obtain ⟨settings, pending, operand, operandsOnly⟩ := progress
  rcases pending with _ | ⟨read, _ | value⟩
  · cases resolved
    exact ⟨rfl, rfl⟩
  · cases resolved
  · obtain ⟨settings, -, made⟩ := bind_eq_ok_iff.mp resolved
    cases made
    exact ⟨rfl, rfl⟩

theorem Open.of_resolve
    (isOpen : grammar.Open progress)
    (resolved : progress.resolve = .ok settled) : grammar.Open settled := by
  obtain ⟨operand_eq, noPending⟩ := eq_of_resolve resolved
  refine ⟨operand_eq.trans isOpen.noOperand, ?_⟩
  rw [noPending]
  nofun

theorem Open.renews_begin
    {value : Option String} (isOpen : grammar.Open progress)
    (refuses : grammar.Refuses read)
    (begun : progress.begin read value = .ok next) :
    grammar.Renews progress next := by
  obtain ⟨settled, resolved, made⟩ := bind_eq_ok_iff.mp begun
  cases made
  refine ⟨⟨settled, resolved⟩, (isOpen.of_resolve resolved).noOperand, ?_⟩
  rintro _ _ ⟨⟩
  exact refuses

theorem Open.renews_attach
    {value : String} (isOpen : grammar.Open progress)
    (refuses : grammar.Refuses read)
    (attached : progress.attach read value = .ok next) :
    grammar.Renews progress next := by
  obtain ⟨begun, hasBegun, resolved⟩ := bind_eq_ok_iff.mp attached
  have renews := isOpen.renews_begin refuses hasBegun
  exact ⟨renews.resolved, renews.isOpen.of_resolve resolved⟩

theorem Open.renews_raise
    {apply : σ → Except Refusal σ} (isOpen : grammar.Open progress)
    (raised : progress.raise apply = .ok next) :
    grammar.Renews progress next := by
  obtain ⟨settled, resolved, rest⟩ := bind_eq_ok_iff.mp raised
  obtain ⟨settings, -, made⟩ := bind_eq_ok_iff.mp rest
  cases made
  have settledOpen := isOpen.of_resolve resolved
  exact ⟨⟨settled, resolved⟩, settledOpen.noOperand, settledOpen.refuses⟩

theorem Open.renews_takeLong
    {name : List Char} (separates : grammar.Separates)
    (isOpen : grammar.Open progress)
    (taken : grammar.takeLong name progress = .ok next) :
    grammar.Renews progress next := by
  dsimp only [takeLong] at taken
  split at taken
  · cases taken
  · exact isOpen.renews_raise taken
  · cases taken
  · next isValued _ =>
      exact isOpen.renews_begin (separates.long _ _ isValued) taken
  · next isValued _ =>
      exact isOpen.renews_attach (separates.long _ _ isValued) taken

/-- Options that stand together do what the first of them does, if there is one. -/
theorem Open.takeShort_cases
    {names : List Char} (separates : grammar.Separates)
    (isOpen : grammar.Open progress)
    (taken : grammar.takeShort names progress = .ok next) :
    names = [] ∧ next = progress ∨ grammar.Renews progress next := by
  induction names generalizing progress with
  | nil =>
      cases taken
      exact .inl ⟨rfl, rfl⟩
  | cons name names inductionHypothesis =>
      right
      rw [takeShort] at taken
      split at taken
      · cases taken
      · obtain ⟨raised, hasRaised, rest⟩ := bind_eq_ok_iff.mp taken
        have renews := isOpen.renews_raise hasRaised
        rcases inductionHypothesis renews.isOpen rest with
          ⟨-, rfl⟩ | further
        · exact renews
        · exact ⟨renews.resolved, further.isOpen⟩
      · next isValued =>
          have refuses := separates.short _ _ isValued
          split at taken
          · exact isOpen.renews_begin refuses taken
          · exact isOpen.renews_attach refuses taken
          · exact isOpen.renews_attach refuses taken

theorem Open.takeOperand_ne_ok (isOpen : grammar.Open progress) :
    grammar.takeOperand word progress ≠ .ok next := by
  rw [takeOperand, isOpen.noOperand]
  dsimp only
  split
  · nofun
  · split <;> nofun

/-- All that a word can do before the command. -/
theorem Open.take_cases
    (separates : grammar.Separates) (isOpen : grammar.Open progress)
    (taken : grammar.take word progress = .ok next) :
    next = { progress with operandsOnly := true } ∨
      (∃ read,
        progress.pending = some (read, none) ∧
          next = { progress with pending := some (read, some word) }) ∨
        grammar.Renews progress next := by
  unfold take at taken
  split at taken
  · exact absurd taken isOpen.takeOperand_ne_ok
  · split at taken
    · cases taken
      exact .inl rfl
    · exact .inr (.inr (isOpen.renews_takeLong separates taken))
    · have renews :=
        (isOpen.takeShort_cases separates taken).resolve_left
          fun none => List.cons_ne_nil _ _ none.1
      exact .inr (.inr renews)
    · split at taken
      · next isPending =>
          cases taken
          exact .inr (.inl ⟨_, isPending, rfl⟩)
      · exact absurd taken isOpen.takeOperand_ne_ok

theorem Open.of_take
    (separates : grammar.Separates) (isOpen : grammar.Open progress)
    (taken : grammar.take word progress = .ok next) : grammar.Open next := by
  rcases isOpen.take_cases separates taken with
    rfl | ⟨read, isPending, rfl⟩ | renews
  · exact ⟨isOpen.noOperand, isOpen.refuses⟩
  · refine ⟨isOpen.noOperand, ?_⟩
    rintro _ _ ⟨⟩
    exact isOpen.refuses _ _ isPending
  · exact renews.isOpen

theorem Open.spoilt_of_take
    (separates : grammar.Separates) (isOpen : grammar.Open progress)
    (spoilt : grammar.Spoilt progress)
    (taken : grammar.take word progress = .ok next) :
    grammar.Spoilt next := by
  rcases isOpen.take_cases separates taken with
    rfl | ⟨read, isPending, rfl⟩ | ⟨⟨settled, resolved⟩, -⟩
  · exact spoilt
  · obtain ⟨_, name, isSpoilt, -⟩ := spoilt
    rw [isPending] at isSpoilt
    cases isSpoilt
  · exact absurd resolved (isOpen.resolve_ne_ok spoilt)

/-- The name of a subcommand that is read as another word becomes the value of an option. -/
theorem Open.spoilt_of_take_name
    (separates : grammar.Separates) (isOpen : grammar.Open progress)
    (isName : word ∈ grammar.subcommands)
    (taken : grammar.take word progress = .ok next) :
    grammar.Spoilt next := by
  unfold take at taken
  split at taken
  · exact absurd taken isOpen.takeOperand_ne_ok
  · have noHyphen := separates.noHyphen word isName
    split at taken
    · next spelled => exact absurd spelled (noHyphen _)
    · next spelled => exact absurd spelled (noHyphen _)
    · next spelled => exact absurd spelled (noHyphen _)
    · split at taken
      · cases taken
        exact ⟨_, word, rfl, isName⟩
      · exact absurd taken isOpen.takeOperand_ne_ok

/-! ## All words before the command -/

variable {final : Progress σ} {command : Option (String × List String)}

theorem Open.resolve_ne_ok_of_scan
    (separates : grammar.Separates) (isOpen : grammar.Open progress)
    (spoilt : grammar.Spoilt progress)
    (scanned : grammar.scan words progress = .ok (final, command)) :
    final.resolve ≠ .ok settled := by
  induction words generalizing progress with
  | nil =>
      cases scanned
      exact isOpen.resolve_ne_ok spoilt
  | cons word words inductionHypothesis =>
      rw [scan] at scanned
      split at scanned
      · cases scanned
        exact isOpen.resolve_ne_ok spoilt
      · obtain ⟨next, taken, rest⟩ := bind_eq_ok_iff.mp scanned
        exact
          inductionHypothesis (isOpen.of_take separates taken)
            (isOpen.spoilt_of_take separates spoilt taken) rest

/-- The subcommand is the first word that is the name of one. -/
theorem Open.dropWhile_eq
    (separates : grammar.Separates) (isOpen : grammar.Open progress)
    (scanned : grammar.scan words progress = .ok (final, command))
    (resolved : final.resolve = .ok settled) :
    words.dropWhile (!grammar.subcommands.contains ·) =
      command.elim [] fun found => found.1 :: found.2 := by
  induction words generalizing progress with
  | nil =>
      cases scanned
      rfl
  | cons word words inductionHypothesis =>
      rw [scan] at scanned
      split at scanned
      · next stops =>
          cases scanned
          rw [Bool.and_eq_true] at stops
          rw [List.dropWhile_cons_of_neg (by simpa using stops.2)]
          rfl
      · obtain ⟨next, taken, rest⟩ := bind_eq_ok_iff.mp scanned
        have nextOpen := isOpen.of_take separates taken
        by_cases isName : word ∈ grammar.subcommands
        · -- The name has become the value of an option, and this is never completed.
          have spoilt := isOpen.spoilt_of_take_name separates isName taken
          exact
            absurd resolved
              (nextOpen.resolve_ne_ok_of_scan separates spoilt rest)
        · rw [List.dropWhile_cons_of_pos (by simpa using isName)]
          exact inductionHypothesis nextOpen rest

end Grammar

/-! ## The options of the program -/

variable {words : List String} {invocation : Invocation}

theorem fillOnce_ne_ok
    {α : Type} {current : Option α} {read : String → Except Refusal α}
    {text : String} (refuses : ∀ value, read text ≠ .ok value) :
    ∀ filled, fillOnce current read text ≠ .ok filled := by
  intro filled isFilled
  unfold fillOnce at isFilled
  split at isFilled
  · cases isFilled
  · cases isRead : read text with
    | error refusal =>
        rw [isRead] at isFilled
        cases isFilled
    | ok value => exact refuses value isRead

theorem readCount_commandName :
    ∀ name ∈ commandNames, readCount name = .error .valueValidation := by
  simp only [commandNames, List.forall_mem_cons]
  exact ⟨rfl, rfl, rfl, nofun⟩

theorem readName_formatNames_commandName :
    ∀ name ∈ commandNames, readName formatNames name = .error .invalidValue := by
  simp only [commandNames, List.forall_mem_cons]
  exact ⟨rfl, rfl, rfl, nofun⟩

/-- An option that fills in a setting refuses what its values refuse. -/
theorem refuses_of_fillOnce
    {α : Type} {current : GeneralOptions → Option α}
    {value : String → Except Refusal α} {refusal : Refusal}
    {filled : GeneralOptions → Option α → GeneralOptions}
    (refuses : ∀ name ∈ commandNames, value name = .error refusal) :
    generalGrammar.Refuses fun text options => do
      return filled options (← fillOnce (current options) value text) := by
  intro name isName settings result isRead
  obtain ⟨filled, isFilled, -⟩ := bind_eq_ok_iff.mp isRead
  refine fillOnce_ne_ok ?_ filled isFilled
  rw [refuses name isName]
  nofun

theorem refuses_readFormat : generalGrammar.Refuses readFormat :=
  refuses_of_fillOnce readName_formatNames_commandName

theorem separates_generalGrammar : generalGrammar.Separates where
  noOperand := rfl
  noHyphen := by
    intro name isName rest spelled
    have first : ∀ name ∈ commandNames, name.toList.head? ≠ some '-' := by
      decide
    apply first name isName
    rw [spelled]
    rfl
  long := by
    intro name read isValued
    change generalLong name = .valued read at isValued
    unfold generalLong at isValued
    split_ifs at isValued <;> cases isValued
    · exact refuses_of_fillOnce readCount_commandName
    · exact refuses_of_fillOnce readCount_commandName
    · exact refuses_of_fillOnce readCount_commandName
    · exact refuses_readFormat
  short := by
    intro name read isValued
    change generalShort name = .valued read at isValued
    unfold generalShort at isValued
    split_ifs at isValued
    cases isValued
    exact refuses_readFormat

/-- The words from the first name of a command on. -/
def commandPart (words : List String) : List String :=
  words.dropWhile (!commandNames.contains ·)

theorem exists_command_of_readArguments
    (accepted : readArguments words = .ok invocation) :
    ∃ name rest,
      commandPart words = name :: rest ∧
        readCommand name rest = .ok invocation.command := by
  obtain ⟨⟨final, command⟩, scanned, accepted⟩ := bind_eq_ok_iff.mp accepted
  cases command with
  | none =>
      obtain ⟨settled, -, accepted⟩ := bind_eq_ok_iff.mp accepted
      dsimp only at accepted
      split at accepted <;> cases accepted
  | some found =>
      obtain ⟨name, rest⟩ := found
      obtain ⟨command, isRead, accepted⟩ := bind_eq_ok_iff.mp accepted
      obtain ⟨settled, resolved, accepted⟩ := bind_eq_ok_iff.mp accepted
      cases accepted
      have start :=
        separates_generalGrammar.open_start GeneralOptions.initial
      exact
        ⟨name, rest,
          start.dropWhile_eq separates_generalGrammar scanned resolved, isRead⟩

/-- Only the words from the command on tell what command is read. -/
theorem command_eq_of_commandPart_eq
    {otherWords : List String} {other : Invocation}
    (accepted : readArguments words = .ok invocation)
    (acceptedOther : readArguments otherWords = .ok other)
    (same : commandPart otherWords = commandPart words) :
    other.command = invocation.command := by
  obtain ⟨name, rest, part_eq, isRead⟩ :=
    exists_command_of_readArguments accepted
  obtain ⟨otherName, otherRest, otherPart_eq, otherIsRead⟩ :=
    exists_command_of_readArguments acceptedOther
  rw [same, part_eq] at otherPart_eq
  cases otherPart_eq
  rw [isRead] at otherIsRead
  exact (Except.ok.inj otherIsRead).symm

end RegisterMachine.CommandLine
