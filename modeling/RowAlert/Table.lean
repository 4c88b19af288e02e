import RowAlert.Row
import RowAlert.Text.Blank
import RowAlert.Text.Lines
import RowAlert.Text.Split
/-!
# RowAlert.Table

**Delimited text** as rows.

Blank lines are dropped before anything else, so they neither count as rows nor as the header. The
cells of a line are what stands between the separators, unchanged; header names lose the blanks
around them. Rows are numbered from zero in the order of their lines.
-/

namespace RowAlert

/-- How a table is written. -/
structure TableFormat where
  /-- Does the first line that is not blank name the columns? -/
  hasHeader : Bool
  /-- What stands between the cells of a line, if anything is known to. -/
  separator : Option String
  deriving DecidableEq

/-- Why a text is no table. -/
inductive TableFault
  | collision (c : Collision)
  /-- There is a line to split, and nothing is known to split it at. -/
  | noSeparator
  /-- There is a line to split, and an empty text to split it at. -/
  | emptySeparator
  deriving DecidableEq

/-- The wording of a table fault. -/
def TableFault.message : TableFault → String
  | collision c => c.message
  | noSeparator => "must be str or None, not list"
  | emptySeparator => "empty separator"

namespace Table

/-- The cells of a line. -/
def cells (separator : String) (line : List Char) : List String :=
  (Text.splitOn separator.toList line).map String.ofList

/-- The lines that hold data. -/
def dataLines (text : String) : List (List Char) :=
  (Text.lines text.toList).filter fun line => !Text.allBlank line

/-- The rows of the lines, numbered from `index` on. -/
def rowsFrom (separator : String) (header : List String) :
    Nat → List (List Char) → Except Collision (List Row)
  | _, [] => .ok []
  | index, line :: lines => do
    let row ← Row.ofValues header index (cells separator line)
    return row :: (← rowsFrom separator header (index + 1) lines)

/-- The rows of a table under its header, if it has one. -/
def rowsOfLines (hasHeader : Bool) (separator : String) :
    List (List Char) → Except Collision (List Row)
  | [] => .ok []
  | line :: lines =>
    if hasHeader then
      rowsFrom separator ((cells separator line).map Text.trimmed) 0 lines
    else rowsFrom separator [] 0 (line :: lines)

/-- The rows that a text writes. -/
def rows (format : TableFormat) (text : String) : Except TableFault (List Row) :=
  let lines := dataLines text
  if lines.isEmpty then .ok []
  else
    match format.separator with
    | none => .error .noSeparator
    | some separator =>
      if separator = "" then .error .emptySeparator
      else (rowsOfLines format.hasHeader separator lines).mapError .collision

end Table

end RowAlert
