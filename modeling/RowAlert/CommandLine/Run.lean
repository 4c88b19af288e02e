import RowAlert.CommandLine.Help
import RowAlert.Dispatcher
import RowAlert.Json.Printer
import RowAlert.Loading
import RowAlert.Settings
import RowAlert.Threshold
/-!
# RowAlert.CommandLine.Run

The **program**: what a command line does.

Arguments, settings, files, channels, the run and its summary come in this order, and whatever fails
first ends the program: a wrong command line with exit code 2, files and channel settings that
cannot be used with exit code 1. A run that comes to its end has exit code 0, whatever became of its
matches. A fault for which the program has no exit code is not caught (`Ending.failed`).
-/

namespace RowAlert.CommandLine

/-- What the program finds outside. -/
structure Surroundings (ω : Type) where
  transport : Transport ω
  /-- The time in seconds. -/
  clock : ω → Number × ω
  /-- How several workers share their work. -/
  schedule : Schedule
  files : Files
  environment : Environment

/-- How the program ends. -/
structure Conclusion where
  exitCode : Nat
  /-- The text on the standard output. -/
  output : String
  /-- What is wrong with the command line. -/
  complaint : Option String

namespace Conclusion

/-- The end of a program that had to show the help text. -/
def help : Conclusion := ⟨0, Help.text, none⟩

/-- The end of a program with a wrong command line. -/
def usage (complaint : String) : Conclusion := ⟨2, "", some complaint⟩

/-- The end of a program that could not begin. -/
def failed : Conclusion := ⟨1, "", none⟩

end Conclusion

variable {ω : Type}

/-- Reports to the operator. -/
def say (severity : Severity) (text : String) : Call ω Unit :=
  .ofSession (.notify ⟨severity, .commandLine, text⟩)

/-- Why nothing could be loaded. -/
inductive LoadFailure
  /-- A load error, which is reported. -/
  | reported (text : String)
  | unreported (fault : Fault)

/-- The fault of a file that has no name. -/
def nameless : Fault := .ofType "expected str, bytes or os.PathLike object, not list"

/-- Loads the rules. -/
def loadRules (s : Surroundings ω) (a : Arguments) : Except LoadFailure (RuleFile × List Notice) :=
  match a.rules with
  | none => .error (.unreported nameless)
  | some path =>
    (RuleFile.load s.files path).mapError fun fault =>
      match fault.unreported? with
      | some f => .unreported f
      | none => .reported fault.message

/-- Loads the rows. -/
def loadRows (s : Surroundings ω) (a : Arguments) : Except LoadFailure (List Row × List Notice) :=
  match a.data with
  | none => .error (.unreported nameless)
  | some path =>
    (Table.load s.files ⟨a.header, a.delimiter⟩ path).mapError fun fault =>
      match fault.unreported? with
      | some f => .unreported f
      | none => .reported fault.message

/-- Goes on with what was loaded, or ends. -/
def withLoaded (loaded : Except LoadFailure (α × List Notice)) (next : α → Call ω Conclusion) :
    Call ω Conclusion :=
  match loaded with
  | .ok (content, notices) => do
    Call.ofSession (.notifyAll notices)
    next content
  | .error (.reported text) => do
    say .error s!"Load failed: {text}"
    return .failed
  | .error (.unreported fault) => Call.ofExcept (.error fault)

/-- Runs a dispatcher that is not used for anything else. -/
def runOnce (d : Dispatcher ω) (matcher : Matcher) (rules : List Rule) (rows : List Row) :
    Call ω Summary := fun world =>
  let run := (do
    let summary ← d.run matcher rules rows
    Call.ofSession Dispatcher.close
    return summary : Call (Desk ω) Summary) (d.desk world)
  ⟨run.value, run.effects, run.world.world⟩

/-- The summary as the program prints it. -/
def printed (a : Arguments) (settings : Settings) (summary : Summary) : String :=
  if a.json then summary.toJson.pretty ++ "\n" else summary.text settings.dryRun

/-- Dispatches the matches of rules and rows over the channels of a registry. -/
def dispatch (s : Surroundings ω) (a : Arguments) (settings : Settings) (registry : Registry ω)
    (rules : List Rule) (rows : List Row) : Call ω Conclusion := do
  let timeout := Json.float settings.callTimeout
  let d := Dispatcher.make registry settings.maxWorkers settings.maxSends timeout
    s.schedule s.clock
  Call.ofSession (.notify d.introduction)
  let matcher := Matcher.fresh (.ofCount settings.maxWorkers s.schedule)
  let summary ← runOnce d matcher rules rows
  return ⟨summary.exitCode, printed a settings summary, none⟩

/-- Goes on with the channels that the settings of a run and of a rule file describe. -/
def withChannels (s : Surroundings ω) (settings : Settings) (file : RuleFile)
    (next : Registry ω → Call ω Conclusion) : Call ω Conclusion :=
  match settings.channels s.environment file.channels with
  | .ok channels => do
    let configured := channels.map fun (name, fields) => (name, Json.obj fields)
    let registry ← Registry.ofSettings s.transport configured settings.dryRun
    next registry
  | .error fault =>
    if fault.isValue then do
      say .error s!"Invalid channel configuration: {fault.message}"
      return .failed
    else Call.ofExcept (.error fault)

/-- The program after its settings are known. -/
def work (s : Surroundings ω) (a : Arguments) (settings : Settings) : Call ω Conclusion :=
  withLoaded (loadRules s a) fun file =>
    withLoaded (loadRows s a) fun rows =>
      withChannels s settings file fun registry =>
        dispatch s a settings registry file.rules rows

/-- A call of which only those effects are seen that a threshold lets through. -/
def above (threshold : Nat) (x : Call ω α) : Call ω α := fun world =>
  let run := x world
  ⟨run.value, run.effects.filter (Threshold.isShown threshold), run.world⟩

/-- What is wrong with settings, for a complaint about the command line. -/
def settingsComplaint : SettingsFault → String
  | .invalid problems => RuleFileFault.reportHeading "NotifierConfig" problems
  | .unreadable fault => fault.message

/-- Does what a command line asks for. -/
def run (s : Surroundings ω) (words : List String) : Call ω Conclusion :=
  match Arguments.ofWords words with
  | .error .help => return .help
  | .error (.complaint text) => return .usage text
  | .ok a =>
    match Settings.make s.environment a.settings with
    | .error fault => return .usage s!"invalid configuration: {settingsComplaint fault}"
    | .ok settings => do
      -- From here on only what the threshold lets through is seen.
      let threshold ← Call.ofExcept (Threshold.ofName settings.logLevel)
      above threshold (work s a settings)

end RowAlert.CommandLine
