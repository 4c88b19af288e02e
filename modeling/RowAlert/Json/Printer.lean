import RowAlert.Json.Basic
/-!
# RowAlert.Json.Printer

Writing **JSON text**, in one line or indented.

Strings are written in ASCII: control characters, and everything past U+007E, are escaped,
characters beyond the basic plane as two surrogates. Integers are written in full and numbers in
shortest form; numbers that are not finite are written as words.
-/

namespace RowAlert.Json

/-- Four hexadecimal digits behind a backslash and `u`. -/
def codeUnit (n : Nat) : List Char := '\\' :: 'u' :: Text.hexPadded 4 n

/-- One character of a string. -/
def escaped (c : Char) : List Char :=
  if c = '"' then ['\\', '"']
  else if c = '\\' then ['\\', '\\']
  else if c = '\n' then ['\\', 'n']
  else if c = '\r' then ['\\', 'r']
  else if c = '\t' then ['\\', 't']
  else if c = '\x0c' then ['\\', 'f']
  else if c = '\x08' then ['\\', 'b']
  else if 32 ≤ c.toNat && c.toNat < 127 then [c]
  else if c.toNat < 0x10000 then codeUnit c.toNat
  else
    let n := c.toNat - 0x10000
    codeUnit (0xD800 + n / 0x400) ++ codeUnit (0xDC00 + n % 0x400)

/-- A string in double quotes. -/
def stringText (s : String) : String := String.ofList ('"' :: s.toList.flatMap escaped ++ ['"'])

/-- A number; one that is not finite is a word. -/
def numberText : Number → String
  | .nan => "NaN"
  | .infinite negative => if negative then "-Infinity" else "Infinity"
  | x => x.text

/-- How arrays and objects are laid out. -/
inductive Layout
  /-- Everything in one line, with a space behind commas and colons. -/
  | oneLine
  /-- An item per line, indented by two spaces more than the brackets around it. -/
  | indented

/-- Brackets around parts that lie `depth` levels deep. -/
def enclosed (layout : Layout) (depth : Nat) (opening closing : String) (parts : List String) :
    String :=
  match parts with
  | [] => opening ++ closing
  | parts =>
    match layout with
    | .oneLine => opening ++ ", ".intercalate parts ++ closing
    | .indented =>
      let newLine (n : Nat) := "\n" ++ String.ofList (List.replicate (2 * n) ' ')
      opening ++ newLine (depth + 1) ++ ("," ++ newLine (depth + 1)).intercalate parts
        ++ newLine depth ++ closing

mutual

/-- A value `depth` levels deep. -/
def render (layout : Layout) (depth : Nat) : Json → String
  | null => "null"
  | bool b => if b then "true" else "false"
  | int i => toString i
  | float x => numberText x
  | str s => stringText s
  | arr items => enclosed layout depth "[" "]" (renderItems layout (depth + 1) items)
  | obj fields => enclosed layout depth "\x7b" "\x7d" (renderFields layout (depth + 1) fields)

/-- The items of an array. -/
def renderItems (layout : Layout) (depth : Nat) : List Json → List String
  | [] => []
  | item :: items => item.render layout depth :: renderItems layout depth items

/-- The fields of an object. -/
def renderFields (layout : Layout) (depth : Nat) : List (String × Json) → List String
  | [] => []
  | (name, value) :: fields =>
    (stringText name ++ ": " ++ value.render layout depth) :: renderFields layout depth fields

end

/-- The value in one line. -/
def line (value : Json) : String := value.render .oneLine 0

/-- The value over several lines. -/
def pretty (value : Json) : String := value.render .indented 0

end RowAlert.Json
