import RowAlert.Fault
import RowAlert.Json.Printer
import RowAlert.Number.Reading
/-!
# RowAlert.Channel.Setting

**Settings of channels**, read loosely.

A setting is any JSON value, and nobody has checked it. Each reader here makes what it can of a
value: a number of a numeral in a string, the characters of a string where a list is wanted, the
names of an object. What cannot be read is a fault, which says what was wanted and what was found.
-/

namespace RowAlert

/-- The settings of a channel, by name. -/
abbrev ChannelSettings := Entries String Json

namespace Setting

/-- A setting, or its default. -/
def get (settings : ChannelSettings) (name : String) (default : Json) : Json :=
  (Entries.get? settings name).getD default

/-! ### Numbers -/

/-- How much of an unreadable text a complaint quotes. -/
def quotedLength : Nat := 200

/-- The integer that a text writes. -/
def integerOfText (s : String) : Except Fault Int :=
  (Numeral.integerOf s).mapError fun
    | .malformed =>
      let shown := String.ofList ((Text.quotedChars s.toList).take quotedLength)
      .ofValue s!"invalid literal for int() with base 10: {shown}"
    | .tooLong digits => .ofValue (Numeral.tooLongText digits)

/-- The number that a text writes. -/
def numberOfText (s : String) : Except Fault Number :=
  match Number.ofText? s with
  | some x => .ok x
  | none => .error (.ofValue s!"could not convert string to float: {Text.quoted s}")

/-- An integer; a fraction is cut off. -/
def integer : Json → Except Fault Int
  | .int i => .ok i
  | .bool b => .ok (if b then 1 else 0)
  | .float x =>
    match x with
    | .nan => .error (.ofValue "cannot convert float NaN to integer")
    | .infinite _ => .error (.failure .overflow "cannot convert float infinity to integer")
    | x => .ok (x.truncated?.getD 0)
  | .str s => integerOfText s
  | value =>
    let wanted := "a string, a bytes-like object or a real number"
    .error (.ofType s!"int() argument must be {wanted}, not '{value.kind}'")

/-- A number. -/
def number : Json → Except Fault Number
  | .float x => .ok x
  | .int i =>
    match Number.ofInt? i with
    | some x => .ok x
    | none => .error (.failure .overflow "int too large to convert to float")
  | .bool b => .ok (Number.ofBool b)
  | .str s => numberOfText s
  | value =>
    .error (.ofType s!"float() argument must be a string or a real number, not '{value.kind}'")

/-! ### Lists -/

/-- The characters of a text, each as a value. -/
def characters (s : String) : List Json := s.toList.map fun c => .str (String.ofList [c])

/-- The items of a value that has items: of an array, the characters of a string, the names of an
object. -/
def items? : Json → Option (List Json)
  | .arr items => some items
  | .str s => some (characters s)
  | .obj fields => some (fields.map fun (name, _) => .str name)
  | _ => none

/-- The items of a value, from item `i` on, as texts. -/
def texts : Nat → List Json → Except Fault (List String)
  | _, [] => .ok []
  | i, .str s :: items => (texts (i + 1) items).map (s :: ·)
  | i, value :: _ =>
    .error (.ofType s!"sequence item {i}: expected str instance, {value.kind} found")

/-- Texts with a comma between neighbours. -/
def joined (value : Json) : Except Fault String :=
  match items? value with
  | some items => (texts 0 items).map Json.commaSeparated
  | none => .error (.ofType "can only join an iterable")

/-! ### Objects -/

/-- A value as the name of a field. Arrays and objects are no names. -/
def fieldName (value : Json) : Except Fault String :=
  match value with
  | .str s => .ok s
  | .arr _ | .obj _ => .error (.ofType s!"unhashable type: '{value.kind}'")
  | value => .ok value.line

/-- An item that stands for a field: it has two parts, a name and a value. `i` is its position. -/
def pair (i : Nat) (item : Json) : Except Fault (String × Json) :=
  match items? item with
  | none =>
    .error (.ofType s!"cannot convert dictionary update sequence element #{i} to a sequence")
  | some [name, value] => (fieldName name).map fun name => (name, value)
  | some parts =>
    let length := parts.length
    .error (.ofValue
      s!"dictionary update sequence element #{i} has length {length}; 2 is required")

/-- The fields that items stand for, from item `i` on. -/
def pairs : Nat → List Json → Except Fault (List (String × Json))
  | _, [] => .ok []
  | i, item :: items => do
    let field ← pair i item
    let fields ← pairs (i + 1) items
    return field :: fields

/-- The fields of an object, or of a list of names and values. -/
def fields : Json → Except Fault (List (String × Json))
  | .obj fields => .ok fields
  | value =>
    match items? value with
    | some items => pairs 0 items
    | none => .error (.ofType s!"'{value.kind}' object is not iterable")

end Setting

end RowAlert
