import RowAlert.Text.Digit
import RowAlert.Text.Split
/-!
# RowAlert.CommandLine.Option

The **options** of the command line, and what each word of a command line is.

A word that starts with a hyphen is an option. Long options may be shortened as long as one option
is meant, and a value may follow behind an equals sign. Negative numbers, the lone hyphen and words
with spaces are no options, and everything behind a double hyphen is plain.
-/

namespace RowAlert.CommandLine

/-- An option. -/
inductive Opt
  | help
  | header
  | delimiter
  | dryRun
  | workers
  | maxSends
  | timeout
  | json
  | logLevel
  deriving DecidableEq

namespace Opt

/-- All options, in the order of the help text. -/
def all : List Opt := [help, header, delimiter, dryRun, workers, maxSends, timeout, json, logLevel]

/-- The spellings of an option. -/
def spellings : Opt → List String
  | help => ["-h", "--help"]
  | header => ["--header"]
  | delimiter => ["--delimiter"]
  | dryRun => ["--dry-run"]
  | workers => ["--workers"]
  | maxSends => ["--max-sends"]
  | timeout => ["--timeout"]
  | json => ["--json"]
  | logLevel => ["--log-level"]

/-- How the help text calls the value of an option; nothing if it takes none. -/
def valueName? : Opt → Option String
  | help | header | dryRun | json => none
  | delimiter => some "DELIMITER"
  | workers => some "WORKERS"
  | maxSends => some "MAX_SENDS"
  | timeout => some "TIMEOUT"
  | logLevel => some "LOG_LEVEL"

/-- Does the option take a value? -/
def takesValue (o : Opt) : Bool := o.valueName?.isSome

/-- What the help text says about an option. -/
def purpose : Opt → String
  | help => "show this help message and exit"
  | header => "First line of the data file holds field names"
  | delimiter => "Field separator (default: ,)"
  | dryRun => "Match and render without sending"
  | workers => "Parallel dispatch workers"
  | maxSends => "Maximum concurrent channel calls"
  | timeout => "Seconds allowed per channel call"
  | json => "Print the summary as JSON"
  | logLevel => "Logging level (default: INFO)"

/-- The option as complaints name it. -/
def shown (o : Opt) : String := "/".intercalate o.spellings

/-- All spellings, each with its option. -/
def table : List (String × Opt) := all.flatMap fun o => o.spellings.map fun s => (s, o)

/-- The option with a spelling. -/
def ofSpelling? (spelling : String) : Option Opt :=
  (table.find? fun (s, _) => s = spelling).map Prod.snd

end Opt

/-- A word of the command line. -/
inductive Item
  | plain (word : String)
  /-- An option, with the value that the word holds besides, if it holds one. -/
  | option (o : Opt) (value : Option String)
  /-- The short spelling of the help option, with letters behind it or behind an equals sign. -/
  | cluster (letters : List Char)
  /-- A word that is no option but looks like one. -/
  | unknown (word : String)
  /-- The double hyphen. -/
  | separator
  deriving DecidableEq

/-- The double hyphen. -/
def separatorWord : String := "--"

namespace Item

/-- A word up to an equals sign, and what follows it. -/
def splitValue (word : List Char) : List Char × Option (List Char) :=
  match word.dropWhile (· ≠ '=') with
  | _ :: value => (word.takeWhile (· ≠ '='), some value)
  | [] => (word, none)

/-- The word of a negative number, without its hyphen. A line end behind it does not count. -/
def isDecimal (cs : List Char) : Bool :=
  let cs := if cs.getLast? = some '\n' then cs.dropLast else cs
  match cs.dropWhile Text.isDigit with
  | [] => !cs.isEmpty
  | '.' :: fraction => !fraction.isEmpty && fraction.all Text.isDigit
  | _ => false

/-- The long spellings that a shortened one may mean. -/
def candidates (shortened : List Char) : List (String × Opt) :=
  Opt.table.filter fun (spelling, _) => shortened.isPrefixOf spelling.toList

/-- The complaint about a shortened option that may mean several. -/
def ambiguous (word : String) (meant : List (String × Opt)) : String :=
  let spellings := ", ".intercalate (meant.map Prod.fst)
  s!"ambiguous option: {word} could match {spellings}"

/-- A word that starts with a hyphen and is no known spelling, with or without a value. -/
def ofUnlisted (word : String) : Except String Item :=
  let cs := word.toList
  let other : Item :=
    if isDecimal (cs.drop 1) || cs.contains ' ' then .plain word else .unknown word
  match cs with
  | '-' :: '-' :: _ =>
    let (shortened, value) := splitValue cs
    -- A spelling in full has been looked up before; here several may be meant.
    match candidates shortened with
    | [] => .ok other
    | [(_, o)] => .ok (.option o (value.map String.ofList))
    | meant => .error (ambiguous word meant)
  | '-' :: 'h' :: letters => .ok (.cluster letters)
  | _ => .ok other

/-- Is it a spelling with a single hyphen? -/
def isShort : List Char → Bool
  | '-' :: c :: _ => c ≠ '-'
  | _ => false

/-- What a word is that does not stand behind a double hyphen. -/
def ofWord (word : String) : Except String Item :=
  match word.toList with
  | '-' :: _ :: _ =>
    if word = separatorWord then .ok .separator
    else
      match Opt.ofSpelling? word with
      | some o => .ok (.option o none)
      | none =>
        let (front, value) := splitValue word.toList
        match value, Opt.ofSpelling? (String.ofList front) with
        | some value, some o =>
          if isShort front && value ≠ [] then .ok (.cluster value)
          else .ok (.option o (some (String.ofList value)))
        | _, _ => ofUnlisted word
  | _ => .ok (.plain word)

/-- What the words of a command line are, or the complaint about the first ambiguous one. -/
def ofWords : List String → Except String (List Item)
  | [] => .ok []
  | word :: words => do
    match ← ofWord word with
    -- No word behind a double hyphen is an option.
    | .separator => return .separator :: words.map .plain
    | item =>
      let items ← ofWords words
      return item :: items

end Item

end RowAlert.CommandLine
