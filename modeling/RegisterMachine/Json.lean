import RegisterMachine.Text.Numeral

/-!
# JSON

The values that reports are made of, and their text: two spaces for each level, a line for each
element, and fields in the order given.
-/

namespace RegisterMachine

open Text.Numeral

inductive Json where
  | bool (value : Bool)
  | number (value : Nat)
  | string (value : String)
  | array (items : List Json)
  | object (fields : List (String × Json))

namespace Json

/-- A character inside a string.  Only quotes, backslashes and the control characters below the
space are escaped. -/
def escape (c : Char) : String :=
  if c = '"' then "\\\""
  else if c = '\\' then "\\\\"
  else if c = '\x08' then "\\b"
  else if c = '\t' then "\\t"
  else if c = '\n' then "\\n"
  else if c = '\x0c' then "\\f"
  else if c = '\r' then "\\r"
  else if c.toNat < 0x20 then "\\u" ++ String.ofList (fill 4 (Nat.toDigits 16 c.toNat))
  else String.singleton c

def quote (text : String) : String :=
  "\"" ++ String.join (text.toList.map escape) ++ "\""

def indent (depth : Nat) : String :=
  String.ofList (List.replicate (2 * depth) ' ')

mutual

/-- The text of a value whose first line is already indented. -/
def render (depth : Nat) : Json → String
  | bool true => "true"
  | bool false => "false"
  | number value => decimal value
  | string value => quote value
  | array [] => "[]"
  | array (item :: items) =>
    "[\n" ++ indent (depth + 1) ++ render (depth + 1) item ++ renderItems (depth + 1) items ++
      "\n" ++ indent depth ++ "]"
  | object [] => "\x7b\x7d"
  | object ((name, value) :: fields) =>
    "\x7b\n" ++ indent (depth + 1) ++ quote name ++ ": " ++ render (depth + 1) value ++
      renderFields (depth + 1) fields ++ "\n" ++ indent depth ++ "\x7d"

/-- The text of the elements after the first one. -/
def renderItems (depth : Nat) : List Json → String
  | [] => ""
  | item :: items =>
    ",\n" ++ indent depth ++ render depth item ++ renderItems depth items

/-- The text of the fields after the first one. -/
def renderFields (depth : Nat) : List (String × Json) → String
  | [] => ""
  | (name, value) :: fields =>
    ",\n" ++ indent depth ++ quote name ++ ": " ++ render depth value ++ renderFields depth fields

end

/-- The text of a value. -/
def pretty (value : Json) : String :=
  value.render 0

end Json

end RegisterMachine
