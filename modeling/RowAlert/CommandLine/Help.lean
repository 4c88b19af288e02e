import RowAlert.CommandLine.Arguments
/-!
# RowAlert.CommandLine.Help

The **help text**, laid out for a screen of 80 columns.

The usage fills its lines with as many words as fit. Below, each entry has its purpose in a column
of its own, or on the next line if the entry reaches into that column.
-/

namespace RowAlert.CommandLine.Help

/-- The name of the program. -/
def programName : String := "data-notifier"

/-- What the program is for. -/
def description : String := "Evaluate alert rules against tabular data and send notifications"

/-- The columns that text may take up. -/
def width : Nat := 78

/-- The column where purposes start. -/
def purposeColumn : Nat := 24

/-- A number of blanks. -/
def blanks (n : Nat) : String := String.ofList (List.replicate n ' ')

/-- Fills lines with parts: `line` is the line so far, and `indent` starts each further line. -/
def fillLines (indent line : String) : List String → List String
  | [] => [line]
  | part :: parts =>
    if line.length + 1 + part.length ≤ width then fillLines indent (line ++ " " ++ part) parts
    else line :: fillLines indent (indent ++ part) parts

/-- An option as the usage shows it. -/
def usagePart (o : Opt) : String :=
  let spelling := o.spellings.headD ""
  match o.valueName? with
  | some value => s!"[{spelling} {value}]"
  | none => s!"[{spelling}]"

/-- The usage: the options, and on a line of their own the files. -/
def usage : List String :=
  let start := s!"usage: {programName}"
  let indent := blanks (start.length + 1)
  fillLines indent start (Opt.all.map usagePart)
    ++ [indent ++ " ".intercalate Reading.fileNames]

/-- An entry and its purpose. -/
def entry (name purpose : String) : List String :=
  let start := s!"  {name}"
  if start.length + 2 ≤ purposeColumn then
    [start ++ blanks (purposeColumn - start.length) ++ purpose]
  else [start, blanks purposeColumn ++ purpose]

/-- An option as its entry shows it. -/
def entryName (o : Opt) : String :=
  let value :=
    match o.valueName? with
    | some value => " " ++ value
    | none => ""
  ", ".intercalate (o.spellings.map (· ++ value))

/-- What the files are for. -/
def filePurposes : List String := ["JSON rule file", "CSV data file"]

/-- The lines of the help text. -/
def lines : List String :=
  let files :=
    (Reading.fileNames.zip filePurposes).flatMap fun (name, purpose) => entry name purpose
  usage ++ ["", description, "", "positional arguments:"] ++ files
    ++ ["", "options:"] ++ Opt.all.flatMap fun o => entry (entryName o) o.purpose

/-- The help text. -/
def text : String := String.join (lines.map (· ++ "\n"))

/-- A complaint as the program writes it. -/
def complaintLine (complaint : String) : String := s!"{programName}: error: {complaint}"

end RowAlert.CommandLine.Help
