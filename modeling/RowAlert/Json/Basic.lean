import RowAlert.Entries
import RowAlert.Number.Shortest
import RowAlert.Text.Quoted
/-!
# RowAlert.Json.Basic

**JSON values**: the form of rule files, channel settings, message metadata and reports.

A number keeps the form it was written in: without fraction and exponent it is an integer of any
size, otherwise a binary64 number. The two print differently and are told apart by validation.
Objects are ordered entries.

Besides the type this module has what settings need to know of a value: whether it counts as true
(`truthy`), the name of its kind in messages (`kind`), and its text, plain (`text`) or as shown
inside another value (`shown`).
-/

namespace RowAlert

/-- A JSON value. -/
inductive Json
  | null
  | bool (value : Bool)
  | int (value : Int)
  | float (value : Number)
  | str (value : String)
  | arr (items : List Json)
  | obj (fields : List (String × Json))

namespace Json

instance : Inhabited Json := ⟨null⟩

/-- Does a value count as true? Null, false, zero and everything empty do not. -/
def truthy : Json → Bool
  | null => false
  | bool b => b
  | int i => i ≠ 0
  | float x => !x.isZero
  | str s => s ≠ ""
  | arr items => !items.isEmpty
  | obj fields => !fields.isEmpty

/-- The name of a value's kind in messages. -/
def kind : Json → String
  | null => "NoneType"
  | bool _ => "bool"
  | int _ => "int"
  | float _ => "float"
  | str _ => "str"
  | arr _ => "list"
  | obj _ => "dict"

/-- Parts with a comma between neighbours. -/
def commaSeparated (parts : List String) : String := ", ".intercalate parts

mutual

/-- The text of a value as it is shown inside another one: texts in quotes, arrays in brackets,
objects in braces. -/
def shown : Json → String
  | null => "None"
  | bool b => if b then "True" else "False"
  | int i => toString i
  | float x => x.text
  | str s => Text.quoted s
  | arr items => "[" ++ commaSeparated (shownItems items) ++ "]"
  | obj fields => "\x7b" ++ commaSeparated (shownFields fields) ++ "\x7d"

/-- The texts of the items of an array. -/
def shownItems : List Json → List String
  | [] => []
  | item :: items => item.shown :: shownItems items

/-- The texts of the fields of an object. -/
def shownFields : List (String × Json) → List String
  | [] => []
  | (name, value) :: fields => (Text.quoted name ++ ": " ++ value.shown) :: shownFields fields

end

/-- The text of a value on its own: a text is itself. -/
def text : Json → String
  | str s => s
  | value => value.shown

/-- The field of an object; none for every other value. -/
def field? : Json → String → Option Json
  | obj fields, name => Entries.get? fields name
  | _, _ => none

/-- An ordered text-to-text mapping as an object. -/
def ofTexts (es : Entries String String) : Json := obj (es.map fun (k, v) => (k, str v))

/-- A value or null. -/
def ofOption (f : α → Json) : Option α → Json
  | some a => f a
  | none => null

end Json

end RowAlert
