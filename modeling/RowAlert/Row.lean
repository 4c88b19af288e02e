import RowAlert.Json.Basic
import RowAlert.Value
/-!
# RowAlert.Row

A **row** of data: named text cells.

A column is named by the header, or by its position (`column0`, `column1`, …) where the header has
no name for it. A column with a header name keeps its positional name as an alias. Aliases never
hide a field: `Row.make` drops every alias that is also the name of a field.

Rows that come from a table know their index. A row without an index is a bare record of cells.
-/

namespace RowAlert

/-- Named text cells. -/
structure Row where
  fields : Entries String String
  /-- Further names, each with the name of the field it stands for. -/
  aliases : Entries String String
  index : Option Int

/-- Two columns of a row have the same name. -/
structure Collision where
  /-- The index of the row. -/
  row : Int
  name : String
  /-- The later of the two columns. -/
  column : Nat
  deriving DecidableEq

/-- The wording of a collision. -/
def Collision.message (c : Collision) : String :=
  s!"Row {c.row}: field name '{c.name}' at column {c.column} collides with an earlier column"

namespace Row

/-- A row without those aliases that are names of fields. -/
def make (fields aliases : Entries String String) (index : Option Int) : Row :=
  ⟨fields, aliases.filter fun (name, _) => !Entries.has fields name, index⟩

/-- The cell of a name; in case there is none, the name that was not found. This is the alias
itself, or the field that it stands for. -/
def item (row : Row) (name : String) : Except String String :=
  match Entries.get? row.fields name with
  | some cell => .ok cell
  | none =>
    match Entries.get? row.aliases name with
    | none => .error name
    | some target =>
      match Entries.get? row.fields target with
      | some cell => .ok cell
      | none => .error target

/-- The cell of a name. -/
def get? (row : Row) (name : String) : Option String :=
  match row.item name with
  | .ok cell => some cell
  | .error _ => none

/-- Does the row have a cell of this name? -/
def has (row : Row) (name : String) : Bool := (row.get? name).isSome

/-- The value of a name. -/
def value (row : Row) (name : String) : Value := Value.ofCell name (row.get? name)

/-- The positional name of a column. -/
def positionalName (column : Nat) : String := s!"column{column}"

/-- The name that the header gives to a column. -/
def headerName? (header : List String) (column : Nat) : Option String :=
  header[column]?.filter (· ≠ "")

/-- The name of a column: from the header, else by position. -/
def columnName (header : List String) (column : Nat) : String :=
  (headerName? header column).getD (positionalName column)

/-- The alias of a column: its positional name, if the header names it. -/
def columnAlias (header : List String) (column : Nat) : Entries String String :=
  match headerName? header column with
  | some name => [(positionalName column, name)]
  | none => []

/-- Adds the columns from `column` on to the fields and aliases of the columns before. -/
def addColumns (header : List String) (index : Int) :
    Nat → Entries String String → Entries String String → List String → Except Collision Row
  | _, fields, aliases, [] => .ok (make fields aliases (some index))
  | column, fields, aliases, cell :: cells =>
    let name := columnName header column
    if Entries.has fields name then .error ⟨index, name, column⟩
    else
      addColumns header index (column + 1) (fields ++ [(name, cell)])
        (aliases ++ columnAlias header column) cells

/-- The row of some cells under a header, which may be shorter or longer than the row. -/
def ofValues (header : List String) (index : Int) (cells : List String) : Except Collision Row :=
  addColumns header index 0 [] [] cells

/-- The same cells under the same names, in any order and at any index. -/
def sameCells (row other : Row) : Bool :=
  row.fields.length == other.fields.length
    && row.fields.all fun (name, cell) => Entries.get? other.fields name == some cell

/-- The text of a row as messages show it. -/
def shown (row : Row) : String :=
  let index := row.index.getD 0
  s!"Row(index={index}, fields={(Json.ofTexts row.fields).shown})"

end Row

end RowAlert
