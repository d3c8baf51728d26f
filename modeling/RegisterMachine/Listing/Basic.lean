import RegisterMachine.Listing.Line
import RegisterMachine.Text.Lines

/-!
# Listings

A listing is the text of a program with the memory cells that it starts from and those to look at
afterwards.
-/

namespace RegisterMachine

structure Listing where
  program : List Instruction
  /-- Memory cells and their first values.  A later value for a cell replaces an earlier one. -/
  data : List (Word × Word)
  /-- The memory cells to show after the run. -/
  watch : List Word
  deriving DecidableEq

namespace Listing

open Text

def empty : Listing :=
  ⟨[], [], []⟩

/-- Puts what a line says before all else. -/
def cons (item : Item) (listing : Listing) : Listing :=
  match item with
  | .instruction instruction => { listing with program := instruction :: listing.program }
  | .data address value => { listing with data := (address, value) :: listing.data }
  | .watch address => { listing with watch := address :: listing.watch }

def ofItems (items : List Item) : Listing :=
  items.foldr cons empty

/-- Reads lines, the first of which has the number `number`.  The first bad line is the one
reported. -/
def parseLines : Nat → List (List Char) → Except Error (List Item)
  | _, [] => .ok []
  | number, line :: rest =>
    match parseLine line with
    | .error cause => .error ⟨number, cause⟩
    | .ok item =>
      match parseLines (number + 1) rest with
      | .error error => .error error
      | .ok items => .ok (item.toList ++ items)

/-- Reads a listing. -/
def parse (text : String) : Except Error Listing :=
  (parseLines 1 (lines text.toList)).map ofItems

end Listing

end RegisterMachine
