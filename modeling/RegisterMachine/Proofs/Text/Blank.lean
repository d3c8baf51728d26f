import Mathlib.Data.List.DropRight
import Mathlib.Data.List.TakeWhile
import RegisterMachine.Text.Blank

/-!
# Blanks around and between words

Trimming takes the blanks at the ends of a text and nothing else.  A trimmed text is its words with
gaps between them.
-/

namespace RegisterMachine.Text

variable {text rest word gap : List Char} {c : Char}

/-- A text without blanks at its ends. -/
structure Trimmed (text : List Char) : Prop where
  head : ∀ c ∈ text.head?, isBlank c = false
  last : ∀ c ∈ text.getLast?, isBlank c = false

/-- One blank or more. -/
structure Gap (gap : List Char) : Prop where
  nonempty : gap ≠ []
  blank : ∀ c ∈ gap, isBlank c = true

/-- One character or more, none of them blank. -/
structure IsWord (word : List Char) : Prop where
  nonempty : word ≠ []
  unbroken : ∀ c ∈ word, isBlank c = false

theorem IsWord.trimmed (isWord : IsWord word) : Trimmed word where
  head c member := isWord.unbroken c (List.mem_of_mem_head? member)
  last c member := isWord.unbroken c (List.mem_of_getLast? member)

theorem isWord_of_all
    (nonempty : word ≠ []) (unbroken : word.all (!isBlank ·) = true) :
    IsWord word where
  nonempty := nonempty
  unbroken c member := by
    have notBlank := List.all_eq_true.mp unbroken c member
    rw [Bool.not_eq_true'] at notBlank
    exact notBlank

theorem Trimmed.append
    {front back : List Char} (middle : List Char)
    (frontTrimmed : Trimmed front) (frontThere : front ≠ [])
    (backTrimmed : Trimmed back) (backThere : back ≠ []) :
    Trimmed (front ++ middle ++ back) where
  head := by
    rw [List.append_assoc, List.head?_append_of_ne_nil front frontThere]
    exact frontTrimmed.head
  last := by
    rw [List.getLast?_append_of_ne_nil _ backThere]
    exact backTrimmed.last

theorem gap_singleton (blank : isBlank c = true) : Gap [c] where
  nonempty := List.cons_ne_nil c []
  blank other member := by
    rw [List.mem_singleton.mp member]
    exact blank

/-- A class of characters takes a word of its own, where the rest begins outside the class. -/
theorem span_append
    {inClass : Char → Bool} (inside : ∀ c ∈ word, inClass c = true)
    (outside : ∀ c ∈ rest.head?, inClass c = false) :
    (word ++ rest).takeWhile inClass = word ∧
      (word ++ rest).dropWhile inClass = rest := by
  rw [List.takeWhile_append_of_pos inside, List.dropWhile_append_of_pos inside]
  cases rest with
  | nil => exact ⟨List.append_nil word, rfl⟩
  | cons first others =>
      have stop : ¬ inClass first = true := by
        rw [outside first rfl]
        decide
      rw [List.takeWhile_cons_of_neg stop, List.append_nil,
        List.dropWhile_cons_of_neg stop]
      exact ⟨rfl, rfl⟩

/-! ## Trimming -/

theorem isBlank_of_mem_head?_trimStart
    (member : c ∈ (trimStart text).head?) : isBlank c = false := by
  have notBlank := List.head?_dropWhile_not isBlank text
  rw [← trimStart, Option.mem_def.mp member] at notBlank
  exact notBlank

theorem trimStart_eq_self
    (head : ∀ c ∈ text.head?, isBlank c = false) :
    trimStart text = text := by
  cases text with
  | nil => rfl
  | cons first rest =>
      have notBlank := head first rfl
      exact List.dropWhile_cons_of_neg (by rw [notBlank]; decide)

theorem trimEnd_eq_self
    (last : ∀ c ∈ text.getLast?, isBlank c = false) :
    trimEnd text = text := by
  have reversed : ∀ c ∈ text.reverse.head?, isBlank c = false := by
    rw [List.head?_reverse]
    exact last
  rw [trimEnd, trimStart_eq_self reversed, List.reverse_reverse]

theorem Trimmed.trim_eq (trimmed : Trimmed text) : trim text = text := by
  rw [trim, trimStart_eq_self trimmed.head, trimEnd_eq_self trimmed.last]

theorem trimmed_trim (text : List Char) : Trimmed (trim text) where
  head c member := by
    obtain ⟨dropped, split⟩ :=
      List.rdropWhile_prefix isBlank (trimStart text)
    have sameHead : c ∈ (trimStart text).head? := by
      rw [← split, List.head?_append]
      change ((trim text).head?.or dropped.head?) = some c
      rw [Option.mem_def.mp member, Option.some_or]
    exact isBlank_of_mem_head?_trimStart sameHead
  last c member := by
    rw [trim, trimEnd, List.getLast?_reverse] at member
    exact isBlank_of_mem_head?_trimStart member

theorem takeWhile_append_trimStart (text : List Char) :
    text.takeWhile isBlank ++ trimStart text = text :=
  List.takeWhile_append_dropWhile

theorem mem_trimStart_or_isBlank (member : c ∈ text) :
    c ∈ trimStart text ∨ isBlank c = true := by
  rw [← takeWhile_append_trimStart text] at member
  rcases List.mem_append.mp member with dropped | kept
  · exact Or.inr (List.mem_takeWhile_imp dropped)
  · exact Or.inl kept

theorem mem_trim_or_isBlank (member : c ∈ text) :
    c ∈ trim text ∨ isBlank c = true := by
  rcases mem_trimStart_or_isBlank member with kept | blank
  · have reversed := List.mem_reverse.mpr kept
    rcases mem_trimStart_or_isBlank reversed with still | blank
    · exact Or.inl (List.mem_reverse.mpr still)
    · exact Or.inr blank
  · exact Or.inr blank

theorem trim_trimStart (text : List Char) : trim (trimStart text) = trim text := by
  have again : trimStart (trimStart text) = trimStart text :=
    List.dropWhile_idempotent isBlank text
  rw [trim, again, trim]

theorem trimStart_append_of_blank
    (blank : ∀ c ∈ gap, isBlank c = true) :
    trimStart (gap ++ rest) = trimStart rest :=
  List.dropWhile_append_of_pos blank

theorem trimStart_append_of_ne_nil
    (content : trimStart text ≠ []) :
    trimStart (text ++ rest) = trimStart text ++ rest := by
  have notEmpty : ¬ (text.dropWhile isBlank).isEmpty = true := by
    rw [List.isEmpty_iff]
    exact content
  rw [trimStart, List.dropWhile_append, if_neg notEmpty, trimStart]

theorem trimStart_eq_nil (blank : ∀ c ∈ gap, isBlank c = true) :
    trimStart gap = [] :=
  List.dropWhile_eq_nil_iff.mpr blank

theorem blank_of_trimStart_eq_nil (noContent : trimStart text = []) :
    ∀ c ∈ text, isBlank c = true :=
  List.dropWhile_eq_nil_iff.mp noContent

theorem trimEnd_append_of_blank
    (blank : ∀ c ∈ gap, isBlank c = true) (text : List Char) :
    trimEnd (text ++ gap) = trimEnd text := by
  have reversed : ∀ c ∈ gap.reverse, isBlank c = true :=
    fun c member => blank c (List.mem_reverse.mp member)
  rw [trimEnd, List.reverse_append, trimStart_append_of_blank reversed, trimEnd]

theorem IsWord.trimEnd_append (isWord : IsWord word) (rest : List Char) :
    trimEnd (word ++ rest) = word ++ trimEnd rest := by
  by_cases noContent : trimStart rest.reverse = []
  · have blank : ∀ c ∈ rest, isBlank c = true :=
      fun c member =>
        blank_of_trimStart_eq_nil noContent c (List.mem_reverse.mpr member)
    rw [trimEnd_append_of_blank blank, trimEnd_eq_self isWord.trimmed.last,
      trimEnd, noContent, List.reverse_nil, List.append_nil]
  · rw [trimEnd, List.reverse_append, trimStart_append_of_ne_nil noContent,
      List.reverse_append, List.reverse_reverse, trimEnd]

theorem trim_append_of_blank
    (blank : ∀ c ∈ gap, isBlank c = true) (text : List Char) :
    trim (text ++ gap) = trim text := by
  by_cases noContent : trimStart text = []
  · rw [trim, trimStart_append_of_blank (blank_of_trimStart_eq_nil noContent),
      trimStart_eq_nil blank, trim, noContent]
  · rw [trim, trimStart_append_of_ne_nil noContent,
      trimEnd_append_of_blank blank, trim]

theorem trim_blank_append
    (blank : ∀ c ∈ gap, isBlank c = true) (text : List Char) :
    trim (gap ++ text) = trim text := by
  rw [trim, trimStart_append_of_blank blank, trim]

/-- `inner` with blanks before and behind it, and none at its own ends. -/
inductive Padded : List Char → List Char → Prop
  | between {before inner behind : List Char} :
      (∀ c ∈ before, isBlank c = true) → Trimmed inner →
      (∀ c ∈ behind, isBlank c = true) →
      Padded (before ++ inner ++ behind) inner

theorem padded_trim (text : List Char) : Padded text (trim text) := by
  let behind := ((trimStart text).reverse.takeWhile isBlank).reverse
  have back : trim text ++ behind = trimStart text := by
    rw [trim, trimEnd, ← List.reverse_append, takeWhile_append_trimStart,
      List.reverse_reverse]
  have beforeBlank : ∀ c ∈ text.takeWhile isBlank, isBlank c = true :=
    fun c member => List.mem_takeWhile_imp member
  have behindBlank : ∀ c ∈ behind, isBlank c = true :=
    fun c member => List.mem_takeWhile_imp (List.mem_reverse.mp member)
  have padded := Padded.between beforeBlank (trimmed_trim text) behindBlank
  rw [List.append_assoc, back, takeWhile_append_trimStart] at padded
  exact padded

/-- Trimming takes the blanks around a text, and there is only one way to do so. -/
theorem padded_iff {inner : List Char} :
    Padded text inner ↔ trim text = inner := by
  constructor
  · rintro ⟨beforeBlank, trimmed, behindBlank⟩
    rw [trim_append_of_blank behindBlank, trim_blank_append beforeBlank,
      trimmed.trim_eq]
  · rintro rfl
    exact padded_trim text

/-! ## Words -/

theorem words_append_of_blank
    (blank : ∀ c ∈ gap, isBlank c = true) :
    words (gap ++ rest) = words rest := by
  induction gap with
  | nil => rfl
  | cons first gap inductionHypothesis =>
      have firstBlank := blank first List.mem_cons_self
      have dropped : words (first :: (gap ++ rest)) = words (gap ++ rest) := by
        have split :=
          List.splitOnP_append_cons_of_forall_mem
            (List.forall_mem_nil (isBlank · = false)) first firstBlank
            (gap ++ rest)
        rw [List.nil_append] at split
        rw [words, split]
        rfl
      rw [List.cons_append, dropped]
      exact inductionHypothesis
        fun c member => blank c (List.mem_cons_of_mem first member)

theorem IsWord.words_eq (isWord : IsWord word) : words word = [word] := by
  have kept : (!word.isEmpty) = true := by
    simp [isWord.nonempty]
  rw [words, List.splitOnP_eq_singleton isWord.unbroken,
    List.filter_singleton, kept]
  rfl

theorem IsWord.words_append
    (isWord : IsWord word) (isGap : Gap gap) (rest : List Char) :
    words (word ++ gap ++ rest) = word :: words rest := by
  obtain ⟨first, others, rfl⟩ := List.exists_cons_of_ne_nil isGap.nonempty
  have kept : (!word.isEmpty) = true := by
    simp [isWord.nonempty]
  have split :=
    List.splitOnP_append_cons_of_forall_mem isWord.unbroken first
      (isGap.blank first List.mem_cons_self) (others ++ rest)
  have othersBlank : ∀ c ∈ others, isBlank c = true :=
    fun c member => isGap.blank c (List.mem_cons_of_mem first member)
  rw [List.append_assoc, List.cons_append, words, split,
    List.filter_cons, if_pos kept]
  exact congrArg (word :: ·) (words_append_of_blank othersBlank)

theorem isWord_takeWhile
    (head : ∀ c ∈ text.head?, isBlank c = false) (content : text ≠ []) :
    IsWord (text.takeWhile (!isBlank ·)) := by
  have nonempty : text.takeWhile (!isBlank ·) ≠ [] := by
    obtain ⟨first, others, rfl⟩ := List.exists_cons_of_ne_nil content
    have notBlank : (!isBlank first) = true := by
      rw [head first rfl]
      rfl
    rw [List.takeWhile_cons, if_pos notBlank]
    exact List.cons_ne_nil _ _
  exact isWord_of_all nonempty List.all_takeWhile

/-- What begins with a blank and does not end with one is a gap before something else. -/
theorem exists_gap
    (head : ∀ c ∈ text.head?, isBlank c = true)
    (last : ∀ c ∈ text.getLast?, isBlank c = false)
    (content : text ≠ []) :
    ∃ gap rest,
      text = gap ++ rest ∧ Gap gap ∧ Trimmed rest ∧ rest ≠ [] := by
  let gap := text.takeWhile isBlank
  let rest := trimStart text
  have split : gap ++ rest = text := List.takeWhile_append_dropWhile
  have blank : ∀ c ∈ gap, isBlank c = true :=
    fun c member => List.mem_takeWhile_imp member
  have gapThere : gap ≠ [] := by
    obtain ⟨first, others, rfl⟩ := List.exists_cons_of_ne_nil content
    have isGap : gap = first :: others.takeWhile isBlank :=
      List.takeWhile_cons_of_pos (head first rfl)
    rw [isGap]
    exact List.cons_ne_nil _ _
  have restThere : rest ≠ [] := by
    intro noRest
    rw [noRest, List.append_nil] at split
    have lastBlank := blank (text.getLast content) (by
      rw [split]
      exact List.getLast_mem content)
    rw [last _ (List.getLast?_eq_some_getLast content)] at lastBlank
    cases lastBlank
  have restTrimmed : Trimmed rest := by
    refine ⟨fun c => isBlank_of_mem_head?_trimStart, ?_⟩
    intro c isLast
    apply last c
    rw [← split, List.getLast?_append_of_ne_nil _ restThere]
    exact isLast
  exact ⟨gap, rest, split.symm, ⟨gapThere, blank⟩, restTrimmed, restThere⟩

/-- A trimmed text is one word, or begins with a word and a gap. -/
theorem Trimmed.exists_word
    (trimmed : Trimmed text) (content : text ≠ []) :
    ∃ word,
      IsWord word ∧
        (text = word ∨
          ∃ gap rest,
            text = word ++ gap ++ rest ∧ Gap gap ∧ Trimmed rest ∧ rest ≠ []) := by
  let behind := text.dropWhile (!isBlank ·)
  have split : text.takeWhile (!isBlank ·) ++ behind = text :=
    List.takeWhile_append_dropWhile
  refine ⟨_, isWord_takeWhile trimmed.head content, ?_⟩
  by_cases ended : behind = []
  · rw [ended, List.append_nil] at split
    exact Or.inl split.symm
  · have head : ∀ c ∈ behind.head?, isBlank c = true := by
      intro c member
      have stopped := List.head?_dropWhile_not (!isBlank ·) text
      rw [Option.mem_def.mp member] at stopped
      simpa using stopped
    have last : ∀ c ∈ behind.getLast?, isBlank c = false := by
      rw [← List.getLast?_append_of_ne_nil _ ended, split]
      exact trimmed.last
    obtain ⟨gap, rest, behind_eq, facts⟩ := exists_gap head last ended
    refine Or.inr ⟨gap, rest, ?_, facts⟩
    rw [List.append_assoc, ← behind_eq, split]

theorem Trimmed.words_ne_nil
    (trimmed : Trimmed text) (content : text ≠ []) : words text ≠ [] := by
  obtain ⟨first, isWord, rfl | ⟨gap, rest, rfl, isGap, -, -⟩⟩ :=
    trimmed.exists_word content
  · rw [isWord.words_eq]
    exact List.cons_ne_nil _ _
  · rw [isWord.words_append isGap]
    exact List.cons_ne_nil _ _

/-- A trimmed text with one word is that word. -/
theorem Trimmed.eq_of_words_eq
    (trimmed : Trimmed text) (words_eq : words text = [word]) :
    text = word := by
  have content : text ≠ [] := by
    rintro rfl
    cases words_eq
  obtain ⟨first, isWord, rfl | ⟨gap, rest, rfl, isGap, restTrimmed, more⟩⟩ :=
    trimmed.exists_word content
  · rw [isWord.words_eq] at words_eq
    exact (List.cons.inj words_eq).1
  · rw [isWord.words_append isGap] at words_eq
    exact absurd (List.cons.inj words_eq).2 (restTrimmed.words_ne_nil more)

/-- In a trimmed text with several words, a gap follows the first of them. -/
theorem Trimmed.split_of_words_eq
    {second : List Char} {others : List (List Char)}
    (trimmed : Trimmed text)
    (words_eq : words text = word :: second :: others) :
    ∃ gap rest,
      text = word ++ gap ++ rest ∧ Gap gap ∧ Trimmed rest ∧
        words rest = second :: others := by
  have content : text ≠ [] := by
    rintro rfl
    cases words_eq
  obtain ⟨first, isWord, rfl | ⟨gap, rest, rfl, isGap, restTrimmed, -⟩⟩ :=
    trimmed.exists_word content
  · rw [isWord.words_eq] at words_eq
    cases words_eq
  · rw [isWord.words_append isGap] at words_eq
    obtain ⟨rfl, rest_eq⟩ := List.cons.inj words_eq
    exact ⟨gap, rest, rfl, isGap, restTrimmed, rest_eq⟩

end RegisterMachine.Text
