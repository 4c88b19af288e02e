import RowAlert.Fault
import RowAlert.File
import RowAlert.Json.Reader
import RowAlert.Notice
import RowAlert.RuleFile
import RowAlert.Table
/-!
# RowAlert.Loading

**Loading** rules and rows from files.

Both kinds of file go through the same stages: the bytes, the text, its form, its meaning. The
faults name the stage. Most of them are load errors, which a run reports and ends with;
`unreported?` gives the others.
-/

namespace RowAlert

/-- Why rules could not be loaded. -/
inductive RuleLoadFault
  | text (path : String) (fault : TextFault)
  /-- The text is no JSON. -/
  | json (path : String) (written : List Char) (fault : Json.ReadFault)
  | content (fault : RuleFileFault)

namespace RuleLoadFault

/-- The wording of a fault. -/
def message : RuleLoadFault → String
  | text path (.unreadable fault) => s!"Cannot read config file {path}: {fault.message path}"
  | text path fault => fault.message path
  | json path written (.malformed complaint offset) =>
    let reason := (Json.ReadFault.malformed complaint offset).message written
    s!"Invalid JSON in config file {path}: {reason}"
  | json _ written fault => fault.message written
  | content fault => fault.message

/-- The fault in case it is no load error: a path that names nothing, bytes that are no text, or an
integer that is too long to read. -/
def unreported? : RuleLoadFault → Option Fault
  | text _ .unnameable => some (.ofValue TextFault.unnameableText)
  | text _ (.undecodable fault) => some (.failure .encoding fault.message)
  | json _ _ (.integerTooLong digits) => some (.ofValue (Numeral.tooLongText digits))
  | _ => none

end RuleLoadFault

/-- Why rows could not be loaded. -/
inductive RowLoadFault
  | text (path : String) (fault : TextFault)
  | content (fault : TableFault)

namespace RowLoadFault

/-- The wording of a fault. -/
def message : RowLoadFault → String
  | text path fault => s!"Cannot read data file {path}: {fault.message path}"
  | content fault => fault.message

/-- The fault in case it is no load error: a path that names nothing, or a separator that separates
nothing. -/
def unreported? : RowLoadFault → Option Fault
  | text _ .unnameable => some (.ofValue TextFault.unnameableText)
  | content .emptySeparator => some (.ofValue TableFault.emptySeparator.message)
  | content .noSeparator => some (.ofType TableFault.noSeparator.message)
  | _ => none

end RowLoadFault

namespace RuleFile

/-- The notice that rules have been loaded. -/
def loaded (path : String) (file : RuleFile) : Notice :=
  ⟨.info, .loading, s!"Loaded {file.rules.length} rules from {path}"⟩

/-- The rule file that a text writes. -/
def ofText (path : String) (written : List Char) : Except RuleLoadFault RuleFile :=
  match Json.read written with
  | .error fault => .error (.json path written fault)
  | .ok value => (RuleFile.ofJson value).mapError .content

/-- Loads the rule file at a path, with the notices of a success. -/
def load (files : Files) (path : String) : Except RuleLoadFault (RuleFile × List Notice) := do
  let path := Path.normal path
  let written ← (files.text path).mapError (.text path)
  let file ← ofText path written
  return (file, [loaded path file])

end RuleFile

namespace Table

/-- The notice that rows have been loaded. -/
def loaded (path : String) (rows : List Row) : Notice :=
  ⟨.info, .loading, s!"Loaded {rows.length} rows from {path}"⟩

/-- Loads the rows of the table at a path, with the notices of a success. -/
def load (files : Files) (format : TableFormat) (path : String) :
    Except RowLoadFault (List Row × List Notice) := do
  let path := Path.normal path
  let written ← (files.text path).mapError (.text path)
  let rows ← (Table.rows format (String.ofList written)).mapError .content
  return (rows, [loaded path rows])

end Table

end RowAlert
