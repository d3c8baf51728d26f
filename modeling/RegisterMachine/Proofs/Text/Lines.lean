import RegisterMachine.Text.Lines

/-!
# Lines one by one

A line is what stands before a line feed, without its carriage return, and then the rest of the text
has its own lines.  Lines hold no line feeds, so each of them is a text of its own.
-/

namespace RegisterMachine.Text

variable {text line rest : List Char}

theorem not_mem_of_mem_splitOn
    {separator : Char} {piece : List Char}
    (member : piece ∈ text.splitOn separator) : separator ∉ piece := by
  induction text generalizing piece with
  | nil =>
      rw [List.splitOn, List.splitOnP_nil, List.mem_singleton] at member
      rw [member]
      exact List.not_mem_nil
  | cons first text inductionHypothesis =>
      rw [List.splitOn_cons_eq_if_modifyHead] at member
      split at member
      · rcases List.mem_cons.mp member with rfl | later
        · exact List.not_mem_nil
        · exact inductionHypothesis later
      · next different =>
          obtain ⟨head, others, split⟩ :=
            List.exists_cons_of_ne_nil (List.splitOn_ne_nil separator text)
          rw [split, List.modifyHead_cons] at member
          rw [split] at inductionHypothesis
          rcases List.mem_cons.mp member with rfl | later
          · rintro (_ | ⟨_, inHead⟩)
            · exact different BEq.rfl
            · exact inductionHypothesis List.mem_cons_self inHead
          · exact inductionHypothesis (List.mem_cons_of_mem head later)

theorem mem_of_mem_dropReturn {c : Char} (member : c ∈ dropReturn line) :
    c ∈ line := by
  unfold dropReturn at member
  split at member
  · exact List.dropLast_subset line member
  · exact member

theorem dropReturn_eq_self (other : line.getLast? ≠ some '\r') :
    dropReturn line = line :=
  if_neg other

theorem newline_not_mem_of_mem_lines (member : line ∈ lines text) :
    '\n' ∉ line := by
  rcases List.mem_append.mp member with ended | last
  · obtain ⟨piece, inPieces, rfl⟩ := List.mem_map.mp ended
    have unbroken := not_mem_of_mem_splitOn (List.dropLast_subset _ inPieces)
    exact fun inLine => unbroken (mem_of_mem_dropReturn inLine)
  · rw [Option.mem_toList] at last
    have isLast := (Option.filter_eq_some_iff.mp last).1
    exact not_mem_of_mem_splitOn (List.mem_of_getLast? isLast)

/-- Text without a line feed is one line, or none if it is empty. -/
theorem lines_of_newline_not_mem (unbroken : '\n' ∉ line) :
    lines line = if line = [] then [] else [line] := by
  rw [lines, List.splitOn_eq_singleton unbroken]
  by_cases blank : line = []
  · rw [blank]
    rfl
  · have kept : (!line.isEmpty) = true := by
      simp [blank]
    rw [if_neg blank]
    simp [kept]

theorem lines_append_newline (unbroken : '\n' ∉ line) (rest : List Char) :
    lines (line ++ '\n' :: rest) = dropReturn line :: lines rest := by
  obtain ⟨first, others, split⟩ :=
    List.exists_cons_of_ne_nil (List.splitOn_ne_nil '\n' rest)
  rw [lines, List.splitOn_append_cons_self_of_not_mem unbroken, lines, split]
  rfl

theorem dropReturn_append_return (line : List Char) :
    dropReturn (line ++ ['\r']) = line := by
  rw [dropReturn, if_pos List.getLast?_concat, List.dropLast_concat]

theorem exists_return_of_dropReturn (line : List Char) :
    line = dropReturn line ∨ line = dropReturn line ++ ['\r'] := by
  by_cases isReturn : line.getLast? = some '\r'
  · obtain ⟨others, rfl⟩ := List.getLast?_eq_some_iff.mp isReturn
    rw [dropReturn_append_return]
    exact Or.inr rfl
  · exact Or.inl (dropReturn_eq_self isReturn).symm

/-! ## The place of a line -/

/-- The text is a number of lines, each with the line feed that ends it. -/
inductive WholeLines : Nat → List Char → Prop
  | none : WholeLines 0 []
  | line {count : Nat} {line rest : List Char} :
      '\n' ∉ line → WholeLines count rest →
      WholeLines (count + 1) (line ++ '\n' :: rest)

/-- What stands behind a line: nothing, or the end of the line and then the rest of the text. -/
inductive LineEnd : List Char → List Char → Prop
  | last : LineEnd [] []
  | feed (rest : List Char) : LineEnd ('\n' :: rest) rest
  | returnFeed (rest : List Char) : LineEnd ('\r' :: '\n' :: rest) rest

variable {count : Nat} {front : List Char}

theorem WholeLines.lines_append
    (whole : WholeLines count front) (rest : List Char) :
    lines (front ++ rest) = lines front ++ lines rest := by
  induction whole with
  | none => rfl
  | line unbroken _ inductionHypothesis =>
      rw [List.append_assoc, List.cons_append, lines_append_newline unbroken,
        lines_append_newline unbroken, inductionHypothesis, List.cons_append]

theorem WholeLines.length_lines (whole : WholeLines count front) :
    (lines front).length = count := by
  induction whole with
  | none => rfl
  | line unbroken _ inductionHypothesis =>
      rw [lines_append_newline unbroken, List.length_cons, inductionHypothesis]

/-- Whole lines and the beginning of one more: so every text begins, wherever it is cut. -/
theorem exists_wholeLines (text : List Char) :
    ∃ count front line,
      text = front ++ line ∧ WholeLines count front ∧ '\n' ∉ line := by
  induction text with
  | nil => exact ⟨0, [], [], rfl, .none, List.not_mem_nil⟩
  | cons first text inductionHypothesis =>
      obtain ⟨count, front, line, rfl, whole, unbroken⟩ := inductionHypothesis
      by_cases isFeed : first = '\n'
      · subst isFeed
        exact
          ⟨count + 1, '\n' :: front, line, rfl, .line List.not_mem_nil whole,
            unbroken⟩
      · have noFeed : '\n' ≠ first := Ne.symm isFeed
        cases whole with
        | none =>
            exact
              ⟨0, [], first :: line, rfl, .none,
                List.not_mem_cons_of_ne_of_not_mem noFeed unbroken⟩
        | @line count firstLine rest lineUnbroken whole =>
            exact
              ⟨count + 1, (first :: firstLine) ++ '\n' :: rest, line, rfl,
                .line
                  (List.not_mem_cons_of_ne_of_not_mem noFeed lineUnbroken)
                  whole,
                unbroken⟩

/-! ## Texts made of lines -/

/-- A line that is still there when a line feed has been put behind it. -/
structure Closed (line : List Char) : Prop where
  content : line ≠ []
  unbroken : '\n' ∉ line
  last : line.getLast? ≠ some '\r'

theorem Closed.lines_append_newline (closed : Closed line) (rest : List Char) :
    lines (line ++ '\n' :: rest) = line :: lines rest := by
  rw [Text.lines_append_newline closed.unbroken,
    dropReturn_eq_self closed.last]

/-- The lines of a text that puts a line feed behind each of them. -/
theorem lines_terminated
    {written : List (List Char)} (closed : ∀ line ∈ written, Closed line) :
    lines (written.flatMap (· ++ ['\n'])) = written := by
  induction written with
  | nil => rfl
  | cons line written inductionHypothesis =>
      have first := closed line List.mem_cons_self
      have others := inductionHypothesis
        fun other member => closed other (List.mem_cons_of_mem line member)
      rw [List.flatMap_cons, List.append_assoc, List.singleton_append,
        first.lines_append_newline, others]

/-- The lines of a text that puts a line feed between each two of them. -/
theorem lines_separated
    {written : List (List Char)} (closed : ∀ line ∈ written, Closed line) :
    lines (['\n'].intercalate written) = written := by
  induction written with
  | nil => rfl
  | cons line written inductionHypothesis =>
      have first := closed line List.mem_cons_self
      have others := inductionHypothesis
        fun other member => closed other (List.mem_cons_of_mem line member)
      by_cases last : written = []
      · subst last
        rw [List.intercalate_singleton,
          lines_of_newline_not_mem first.unbroken, if_neg first.content]
      · rw [List.intercalate_cons_of_ne_nil last, List.append_assoc,
          List.singleton_append, first.lines_append_newline, others]

end RegisterMachine.Text
