import RowAlert.Channel.Setting
import RowAlert.CommandLine.Option
/-!
# RowAlert.CommandLine.Arguments

The **arguments** of the program.

Words are taken from the left. An option without a value behind an equals sign takes the next plain
word; other plain words are the two files, and what is left over is not recognised. The first
complaint counts; missing files come before words that are not recognised, and asking for help ends
everything.
-/

namespace RowAlert.CommandLine

/-- A file that the command line names. A double hyphen that stands behind another one names
none. -/
abbrev FileName := Option String

/-- The value of an option. A double hyphen behind an equals sign is none. -/
abbrev OptionValue (α : Type) := Option α

/-- What the words so far say. -/
structure Reading where
  /-- The files in order. -/
  files : List FileName
  header : Bool
  delimiter : OptionValue String
  dryRun : Bool
  workers : Option (OptionValue Int)
  maxSends : Option (OptionValue Int)
  timeout : Option (OptionValue Number)
  json : Bool
  logLevel : Option (OptionValue String)
  unrecognised : List String

/-- What the command line asks for. -/
structure Arguments where
  rules : FileName
  data : FileName
  header : Bool
  delimiter : OptionValue String
  dryRun : Bool
  workers : Option (OptionValue Int)
  maxSends : Option (OptionValue Int)
  timeout : Option (OptionValue Number)
  json : Bool
  logLevel : Option (OptionValue String)

/-- Why there are no arguments to go on with. -/
inductive Stop
  | help
  | complaint (text : String)
  deriving DecidableEq

namespace Reading

/-- What no words say. -/
def start : Reading where
  files := []
  header := false
  delimiter := some ","
  dryRun := false
  workers := none
  maxSends := none
  timeout := none
  json := false
  logLevel := none
  unrecognised := []

/-- The names of the files in complaints. -/
def fileNames : List String := ["config", "data"]

/-- Is there a file still to come? -/
def wantsFile (r : Reading) : Bool := r.files.length < fileNames.length

/-- A complaint about an option. -/
def complaint (o : Opt) (text : String) : Stop := .complaint s!"argument {o.shown}: {text}"

/-- The complaint about a value that an option does not take. -/
def ignored (o : Opt) (value : String) : Stop :=
  complaint o s!"ignored explicit argument {Text.quoted value}"

/-- Reads the value of an option. -/
def valueOf (o : Opt) (kind : String) (read : String → Except Fault α) :
    OptionValue String → Except Stop (OptionValue α)
  | none => .ok none
  | some word =>
    match read word with
    | .ok a => .ok (some a)
    | .error _ => .error (complaint o s!"invalid {kind} value: {Text.quoted word}")

/-- Takes an option without a value. -/
def takeFlag (r : Reading) : Opt → Except Stop Reading
  | .help => .error .help
  | .header => .ok { r with header := true }
  | .dryRun => .ok { r with dryRun := true }
  | .json => .ok { r with json := true }
  | _ => .ok r

/-- Takes an option with its value. -/
def takeValue (r : Reading) (o : Opt) (value : OptionValue String) : Except Stop Reading :=
  match o with
  | .delimiter => .ok { r with delimiter := value }
  | .logLevel => .ok { r with logLevel := some value }
  | .workers => do
    let n ← valueOf o "int" Setting.integerOfText value
    return { r with workers := some n }
  | .maxSends => do
    let n ← valueOf o "int" Setting.integerOfText value
    return { r with maxSends := some n }
  | .timeout => do
    let x ← valueOf o "float" Setting.numberOfText value
    return { r with timeout := some x }
  | _ => .ok r

/-- Takes the help option with letters behind its short spelling. Each letter may be the option once
more; what is left over is taken for a value. -/
def takeCluster : List Char → Stop
  | [] => .help
  | 'h' :: letters => takeCluster letters
  | letters => ignored .help (String.ofList letters)

/-- Takes a file; `led` tells whether a double hyphen stands directly before it. -/
def takeFile (r : Reading) (led : Bool) (word : String) : Reading :=
  { r with files := r.files ++ [if word = separatorWord && !led then none else some word] }

/-- Takes a word that means nothing. -/
def leave (r : Reading) (word : String) : Reading :=
  { r with unrecognised := r.unrecognised ++ [word] }

/-- Reads words from the left. -/
def read (r : Reading) : List Item → Except Stop Reading
  | [] => .ok r
  | .plain word :: items =>
    if r.wantsFile then
      match items with
      -- A double hyphen directly behind a file belongs to it.
      | .separator :: items => (r.takeFile false word).read items
      | items => (r.takeFile false word).read items
    else (r.leave word).read items
  | .separator :: items =>
    match items with
    | .plain word :: items =>
      if r.wantsFile then (r.takeFile true word).read items
      else ((r.leave separatorWord).leave word).read items
    | items => (r.leave separatorWord).read items
  | .unknown word :: items => (r.leave word).read items
  | .cluster letters :: _ => .error (takeCluster letters)
  | .option o (some value) :: items => do
    if !o.takesValue then throw (ignored o value)
    let r ← r.takeValue o (if value = separatorWord then none else some value)
    r.read items
  | .option o none :: items =>
    if o.takesValue then
      match items with
      | .plain word :: items => do
        let r ← r.takeValue o (some word)
        r.read items
      | _ => .error (complaint o "expected one argument")
    else do
      let r ← r.takeFlag o
      r.read items

/-- The arguments, if nothing is missing and nothing is left over. -/
def finish (r : Reading) : Except Stop Arguments :=
  match r.files with
  | rules :: data :: _ =>
    if r.unrecognised.isEmpty then
      .ok ⟨rules, data, r.header, r.delimiter, r.dryRun, r.workers, r.maxSends, r.timeout, r.json,
        r.logLevel⟩
    else
      let words := " ".intercalate r.unrecognised
      .error (.complaint s!"unrecognized arguments: {words}")
  | files =>
    -- Missing files are complained about before words that mean nothing.
    let names := ", ".intercalate (fileNames.drop files.length)
    .error (.complaint s!"the following arguments are required: {names}")

end Reading

namespace Arguments

/-- The arguments that a command line writes. -/
def ofWords (words : List String) : Except Stop Arguments := do
  let items ← (Item.ofWords words).mapError .complaint
  let r ← Reading.start.read items
  r.finish

/-- The settings that arguments give, as fields of a record of settings. -/
def settings (a : Arguments) : List (String × Json) :=
  (if a.dryRun then [("dry_run", .bool true)] else [])
    ++ (a.workers.map fun n => ("max_workers", Json.ofOption .int n)).toList
    ++ (a.maxSends.map fun n => ("max_concurrent_sends", Json.ofOption .int n)).toList
    ++ (a.timeout.map fun x => ("call_timeout_seconds", Json.ofOption .float x)).toList
    ++ ((a.logLevel.join.filter (· ≠ "")).map fun s => ("log_level", Json.str s)).toList

end Arguments

end RowAlert.CommandLine
