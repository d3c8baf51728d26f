import RegisterMachine.Machine.Dump
import RegisterMachine.Proofs.Text.Plain

/-!
# Reading a dump

A reader of dumps knows the layout of their lines only: the address in front, two blanks, and words
of eight digits with blanks between them.  It finds every cell of a dumped range in its place.
-/

namespace RegisterMachine

open Text Numeral

namespace Memory

/-! ## Ranges of cells -/

variable {memory : Memory} {start stop : Nat} {cells : List Word}

theorem slice_eq_none_iff :
    memory.slice start stop = none ↔ stop < start ∨ memory.size < stop := by
  rw [slice, ite_eq_right_iff]
  constructor
  · intro absent
    by_contra inside
    cases absent (by omega)
  · omega

theorem length_of_slice (sliced : memory.slice start stop = some cells) :
    cells.length = stop - start := by
  rw [slice, Option.ite_none_right_eq_some, Option.some_inj] at sliced
  obtain ⟨⟨-, atMost⟩, rfl⟩ := sliced
  rw [Array.length_toList, Array.size_extract]
  unfold size at atMost
  omega

theorem getElem?_of_slice
    {index : Nat} (sliced : memory.slice start stop = some cells)
    (inRange : index < stop - start) :
    cells[index]? = memory.cells[start + index]? := by
  rw [slice, Option.ite_none_right_eq_some, Option.some_inj] at sliced
  obtain ⟨⟨-, atMost⟩, rfl⟩ := sliced
  unfold size at atMost
  rw [Array.getElem?_toList, Array.getElem?_extract, if_pos (by omega)]

theorem getElem?_eq_some_get
    {address : Word} (inside : address.toNat < memory.size) :
    memory.cells[address.toNat]? = some (memory.get address) := by
  unfold size at inside
  rw [get, Array.getD_eq_getD_getElem?, Array.getElem?_eq_getElem inside]
  rfl

end Memory

namespace Machine

/-! ## Rows -/

section Rows

variable {α : Type} {cells : List α}

theorem length_rows (cells : List α) :
    (rows cells).length = (cells.length + 7) / 8 := by
  fun_induction rows cells with
  | case1 => simp
  | case2 cell rest inductionHypothesis =>
      rw [List.length_cons, inductionHypothesis, List.length_drop,
        List.length_cons]
      omega

theorem ne_nil_of_mem_rows {row : List α} (member : row ∈ rows cells) :
    row ≠ [] := by
  fun_induction rows cells with
  | case1 => cases member
  | case2 cell rest inductionHypothesis =>
      rcases List.mem_cons.mp member with rfl | later
      · exact List.cons_ne_nil _ _
      · exact inductionHypothesis later

/-- Only the last row may be short. -/
theorem length_of_getElem?_rows
    {index : Nat} {row : List α}
    (isRow : (rows cells)[index]? = some row)
    (notLast : index + 1 < (rows cells).length) : row.length = 8 := by
  fun_induction rows cells generalizing index with
  | case1 => cases isRow
  | case2 cell rest inductionHypothesis =>
      rw [List.length_cons] at notLast
      cases index with
      | zero =>
          -- A further row means that there are cells behind the first eight.
          rw [length_rows, List.length_drop] at notLast
          cases isRow
          rw [List.length_cons, List.length_take]
          omega
      | succ index =>
          rw [List.getElem?_cons_succ] at isRow
          exact inductionHypothesis isRow (by omega)

end Rows

namespace Dump

/-! ## The reader -/

/-- A line of cells: the address of the first of them, and what they hold. -/
structure Row where
  address : Nat
  words : List Word
  deriving DecidableEq

/-- Eight hexadecimal digits or more. -/
def readAddress (field : List Char) : Option Nat :=
  if 8 ≤ field.length then
    (readDigitsFrom 16 (16 ^ field.length) 0 field).toOption
  else none

/-- Eight hexadecimal digits. -/
def readWord (field : List Char) : Option Word :=
  if field.length = 8 then
    (readDigitsFrom 16 UInt32.size 0 field).toOption.map UInt32.ofNat
  else none

def readRow (line : List Char) : Option Row :=
  match line.splitOn ' ' with
  | address :: [] :: fields => do
      return ⟨← readAddress address, ← fields.mapM readWord⟩
  | _ => none

def header : List Char :=
  "--- Memory Dump ---".toList

def footer : List Char :=
  "-------------------".toList

/-- The rows between the header and the footer. -/
def read (text : String) : Option (List Row) :=
  match lines text.toList with
  | [] => none
  | first :: rest =>
      if first = header ∧ rest.getLast? = some footer then
        rest.dropLast.mapM readRow
      else none

/-! ## Numbers -/

theorem length_fill (width : Nat) (digits : List Char) :
    (fill width digits).length = max width digits.length := by
  rw [fill, List.length_append, List.length_replicate]
  omega

theorem toList_wordHex (number : Nat) :
    (wordHex number).toList = fill 8 (Nat.toDigits 16 number) :=
  String.toList_ofList

theorem readDigitsFrom_wordHex {bound number : Nat} (small : number < bound) :
    readDigitsFrom 16 bound 0 (wordHex number).toList = .ok number := by
  rw [toList_wordHex, fill,
    readDigitsFrom_zeros (by decide) le_rfl (by omega),
    readDigitsFrom_toDigits (by decide) le_rfl small]

theorem blank_not_mem_wordHex (number : Nat) :
    ' ' ∉ (wordHex number).toList := by
  intro member
  have read := readDigitsFrom_wordHex (Nat.lt_succ_self number)
  exact absurd (isAlphanum_of_readDigitsFrom read ' ' member) (by decide)

theorem readAddress_wordHex (address : Nat) :
    readAddress (wordHex address).toList = some address := by
  have length := length_fill 8 (Nat.toDigits 16 address)
  rw [← toList_wordHex] at length
  have small : address < 16 ^ (wordHex address).toList.length :=
    (Nat.length_toDigits_le_iff (by decide) (by omega)).mp (by omega)
  rw [readAddress, if_pos (by omega), readDigitsFrom_wordHex small]
  rfl

theorem readWord_wordHex (word : Word) :
    readWord (wordHex word.toNat).toList = some word := by
  have width : (wordHex word.toNat).toList.length = 8 := by
    have atMost : (Nat.toDigits 16 word.toNat).length ≤ 8 :=
      (Nat.length_toDigits_le_iff (by decide) (by decide)).mpr word.toNat_lt
    rw [toList_wordHex, length_fill]
    omega
  rw [readWord, if_pos width, readDigitsFrom_wordHex word.toNat_lt_size]
  exact congrArg some UInt32.ofNat_toNat

/-! ## Lines -/

theorem mapM_map_eq_some
    {α β : Type} {read : List Char → Option β} {write : α → List Char}
    {back : α → β} {items : List α}
    (readBack : ∀ item ∈ items, read (write item) = some (back item)) :
    (items.map write).mapM read = some (items.map back) := by
  induction items with
  | nil => rfl
  | cons item items inductionHypothesis =>
      have first := readBack item List.mem_cons_self
      have others := inductionHypothesis
        fun other member => readBack other (List.mem_cons_of_mem item member)
      rw [List.map_cons, List.mapM_cons, first, others]
      rfl

/-- A row as its line, without the line feed. -/
def Row.text (row : Row) : String :=
  wordHex row.address ++ "  " ++
    " ".intercalate (row.words.map fun word => wordHex word.toNat)

theorem Row.closed_text (row : Row) : Closed row.text.toList := by
  have plainWords :
      ∀ field ∈ row.words.map fun word => wordHex word.toNat, Plain field :=
    List.forall_mem_map.mpr fun word _ => plain_wordHex word.toNat
  refine Plain.closed ?_ ?_
  · rw [Row.text, plain_append_iff, plain_append_iff]
    exact
      ⟨⟨plain_wordHex row.address, rfl⟩, plain_intercalate rfl plainWords⟩
  · simp [Row.text]

theorem Row.splitOn_text (row : Row) (content : row.words ≠ []) :
    row.text.toList.splitOn ' ' =
      (wordHex row.address).toList :: [] ::
        row.words.map fun word => (wordHex word.toNat).toList := by
  have fields :
      row.text.toList =
        [' '].intercalate
          ((wordHex row.address).toList :: [] ::
            row.words.map fun word => (wordHex word.toNat).toList) := by
    -- The second of the two blanks stands behind the empty field, since a word follows.
    rw [List.intercalate_cons_of_ne_nil (List.cons_ne_nil _ _),
      List.intercalate_cons_of_ne_nil (by simpa using content), Row.text]
    simp [String.toList_intercalate, Function.comp_def]
  rw [fields]
  refine List.splitOn_intercalate ' ' ?_ (List.cons_ne_nil _ _)
  rw [List.forall_mem_cons, List.forall_mem_cons, List.forall_mem_map]
  exact
    ⟨blank_not_mem_wordHex row.address, List.not_mem_nil,
      fun word _ => blank_not_mem_wordHex word.toNat⟩

theorem readRow_text (row : Row) (content : row.words ≠ []) :
    readRow row.text.toList = some row := by
  have words :
      (row.words.map fun word => (wordHex word.toNat).toList).mapM readWord =
        some (row.words.map id) :=
    mapM_map_eq_some fun word _ => readWord_wordHex word
  rw [readRow, row.splitOn_text content]
  dsimp only
  rw [readAddress_wordHex, words, List.map_id]
  rfl

/-! ## The text -/

/-- The rows of some cells, the first of which has the address `start`. -/
def rowsFrom (start : Nat) (cells : List Word) : List Row :=
  (rows cells).mapIdx fun index words => ⟨start + 8 * index, words⟩

section RowsFrom

variable {start index : Nat} {cells : List Word} {row : Row}

theorem length_rowsFrom (start : Nat) (cells : List Word) :
    (rowsFrom start cells).length = (cells.length + 7) / 8 := by
  rw [rowsFrom, List.length_mapIdx, length_rows]

theorem flatMap_rowsFrom (start : Nat) (cells : List Word) :
    (rowsFrom start cells).flatMap Row.words = cells := by
  have words : (rowsFrom start cells).map Row.words = rows cells := by
    apply List.ext_getElem?
    intro index
    rw [rowsFrom, List.getElem?_map, List.getElem?_mapIdx, Option.map_map]
    exact congrFun Option.map_id _
  rw [List.flatMap_def, words, flatten_rows]

theorem getElem?_rowsFrom_iff :
    (rowsFrom start cells)[index]? = some row ↔
      (rows cells)[index]? = some row.words ∧
        row.address = start + 8 * index := by
  rw [rowsFrom, List.getElem?_mapIdx, Option.map_eq_some_iff]
  constructor
  · rintro ⟨words, isRow, rfl⟩
    exact ⟨isRow, rfl⟩
  · rintro ⟨isRow, place⟩
    exact ⟨row.words, isRow, by rw [← place]⟩

theorem content_of_mem_rowsFrom (member : row ∈ rowsFrom start cells) :
    row.words ≠ [] := by
  obtain ⟨index, isRow⟩ := List.mem_iff_getElem?.mp member
  exact
    ne_nil_of_mem_rows
      (List.mem_of_getElem? (getElem?_rowsFrom_iff.mp isRow).1)

end RowsFrom

end Dump

section Dumped

variable {machine : Machine} {start stop : Nat} {text : String}

/-- The lines of a dump. -/
def dumpLines (start : Nat) (cells : List Word) : List (List Char) :=
  Dump.header ::
    ((Dump.rowsFrom start cells).map (·.text.toList) ++ [Dump.footer])

theorem closed_of_mem_dumpLines
    (cells : List Word) : ∀ line ∈ dumpLines start cells, Closed line := by
  rw [dumpLines, List.forall_mem_cons, List.forall_mem_append,
    List.forall_mem_map, List.forall_mem_singleton]
  exact
    ⟨Plain.closed rfl (by decide), fun row _ => row.closed_text,
      Plain.closed rfl (by decide)⟩

theorem exists_cells_of_dumpMemory
    (dumped : machine.dumpMemory start stop = some text) :
    ∃ cells,
      machine.memory.slice start stop = some cells ∧
        text.toList = (dumpLines start cells).flatMap (· ++ ['\n']) := by
  obtain ⟨cells, sliced, rfl⟩ := Option.map_eq_some_iff.mp dumped
  refine ⟨cells, sliced, ?_⟩
  have rowLines :
      ((rows cells).mapIdx fun index row => rowLine (start + 8 * index) row) =
        (Dump.rowsFrom start cells).map fun row => row.text ++ "\n" := by
    apply List.ext_getElem?
    intro index
    rw [Dump.rowsFrom, List.getElem?_map, List.getElem?_mapIdx,
      List.getElem?_mapIdx, Option.map_map]
    rfl
  rw [rowLines, dumpLines, List.flatMap_cons, List.flatMap_append,
    List.flatMap_map, List.flatMap_singleton]
  simp only [String.toList_append, String.toList_join, List.flatMap_map]
  rfl

theorem read_eq_of_toList_eq
    {cells : List Word}
    (written : text.toList = (dumpLines start cells).flatMap (· ++ ['\n'])) :
    Dump.read text = some (Dump.rowsFrom start cells) := by
  have readRows :
      ((Dump.rowsFrom start cells).map (·.text.toList)).mapM Dump.readRow =
        some ((Dump.rowsFrom start cells).map id) :=
    Dump.mapM_map_eq_some fun row member =>
      Dump.readRow_text row (Dump.content_of_mem_rowsFrom member)
  rw [Dump.read, written, lines_terminated (closed_of_mem_dumpLines cells),
    dumpLines]
  dsimp only
  rw [if_pos ⟨rfl, List.getLast?_concat⟩, List.dropLast_concat, readRows,
    List.map_id]

example :
    Dump.read "--- Memory Dump ---\n00000003  0000beef 00000001\n-------------------\n" =
      some [⟨3, [0xbeef, 1]⟩] := by
  decide

/-- What is read off the dump of a range: its cells, eight to a row. -/
structure Dump.Shows
    (machine : Machine) (start stop : Nat) (shown : List Dump.Row) : Prop where
  length_rows : shown.length = (stop - start + 7) / 8
  address_of_row :
    ∀ index row, shown[index]? = some row → row.address = start + 8 * index
  length_of_row :
    ∀ index row, shown[index]? = some row → index + 1 < shown.length →
      row.words.length = 8
  length_words : (shown.flatMap Dump.Row.words).length = stop - start
  getElem?_words :
    ∀ index < stop - start,
      (shown.flatMap Dump.Row.words)[index]? =
        machine.memory.cells[start + index]?
  getElem?_getCell :
    ∀ address : Word, start ≤ address.toNat → address.toNat < stop →
      (shown.flatMap Dump.Row.words)[address.toNat - start]? =
        some (machine.getCell address)

theorem Dump.shows_rowsFrom
    {cells : List Word}
    (sliced : machine.memory.slice start stop = some cells) :
    Dump.Shows machine start stop (Dump.rowsFrom start cells) where
  length_rows := by
    rw [Dump.length_rowsFrom, Memory.length_of_slice sliced]
  address_of_row index row isRow := (Dump.getElem?_rowsFrom_iff.mp isRow).2
  length_of_row index row isRow notLast := by
    rw [Dump.rowsFrom, List.length_mapIdx] at notLast
    exact
      length_of_getElem?_rows (Dump.getElem?_rowsFrom_iff.mp isRow).1 notLast
  length_words := by
    rw [Dump.flatMap_rowsFrom, Memory.length_of_slice sliced]
  getElem?_words index inRange := by
    rw [Dump.flatMap_rowsFrom, Memory.getElem?_of_slice sliced inRange]
  getElem?_getCell address atLeast below := by
    have inside : ¬ (stop < start ∨ machine.memory.size < stop) := by
      rw [← Memory.slice_eq_none_iff, sliced]
      exact Option.some_ne_none cells
    have place : start + (address.toNat - start) = address.toNat := by omega
    rw [Dump.flatMap_rowsFrom,
      Memory.getElem?_of_slice sliced (by omega), place]
    exact Memory.getElem?_eq_some_get (by omega)

theorem read_of_dumpMemory
    (dumped : machine.dumpMemory start stop = some text) :
    ∃ shown, Dump.read text = some shown ∧ Dump.Shows machine start stop shown := by
  obtain ⟨cells, sliced, written⟩ := exists_cells_of_dumpMemory dumped
  exact
    ⟨Dump.rowsFrom start cells, read_eq_of_toList_eq written,
      Dump.shows_rowsFrom sliced⟩

/-- Equal dumps of one range come from equal cells. -/
theorem getCell_eq_of_dumpMemory_eq
    {other : Machine} {address : Word}
    (dumped : machine.dumpMemory start stop = some text)
    (dumpedOther : other.dumpMemory start stop = some text)
    (atLeast : start ≤ address.toNat) (below : address.toNat < stop) :
    machine.getCell address = other.getCell address := by
  obtain ⟨shown, isRead, shows⟩ := read_of_dumpMemory dumped
  obtain ⟨shownOther, isReadOther, showsOther⟩ := read_of_dumpMemory dumpedOther
  have same : shown = shownOther :=
    Option.some_inj.mp (isRead.symm.trans isReadOther)
  subst same
  exact
    Option.some_inj.mp
      ((shows.getElem?_getCell address atLeast below).symm.trans
        (showsOther.getElem?_getCell address atLeast below))

/-- There is a dump unless the range ends before it starts or does not fit in the memory, and what
is read off it is the range. -/
theorem dumpMemory_lossless (machine : Machine) (start stop : Nat) :
    (machine.dumpMemory start stop = none ↔
        stop < start ∨ machine.memory.size < stop) ∧
      ∀ text, machine.dumpMemory start stop = some text →
        ∃ shown,
          Dump.read text = some shown ∧
            Dump.Shows machine start stop shown := by
  constructor
  · rw [dumpMemory, Option.map_eq_none_iff, Memory.slice_eq_none_iff]
  · exact fun text dumped => read_of_dumpMemory dumped

end Dumped

end Machine

end RegisterMachine
