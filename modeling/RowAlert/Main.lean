import RowAlert.CommandLine.Run
/-!
# RowAlert.Main

The **executable**: reads what the program needs from outside, runs it, and writes what it says.

Files and variables are read before the program runs, and all its effects are written after it has
ended. There is no network: requests and mail sessions fail to connect, so a run that is not a dry
run reports every delivery as failed.
-/

namespace RowAlert.Executable

/-- The fault of a connection that cannot be made. -/
def offline (kind : FaultKind) : Fault := .failure kind "no network"

/-- The transport without a network. -/
def transport : Transport Unit where
  http _ world := (.failed (offline .httpConnection), world)
  mail _ world := (.failed (offline .system), world)

/-- The variables that are set. -/
def environment : IO Environment := do
  let found ← Settings.variableNames.mapM fun name => do
    return (← IO.getEnv name).map fun text => (name, text)
  return found.filterMap id

/-- The content of a file, or why there is none. -/
def content (path : String) : IO (Except FileFault (List UInt8)) := do
  try
    return .ok (← IO.FS.readBinFile path).toList
  catch e =>
    match e with
    | .noFileOrDirectory .. => return .error .notFound
    | .inappropriateType .. => return .error .isDirectory
    | e => return .error ⟨5, toString e⟩

/-- The files that the words of a command line may name. -/
def files (words : List String) : IO Files := do
  let found ← words.mapM fun word => do
    let path := Path.normal word
    return (path, ← content path)
  return fun path =>
    match Entries.get? found path with
    | some result => result
    | none => .error .notFound

/-- Shows an effect to the operator. -/
def report (e : Effect) : IO Unit :=
  match e with
  | .notice n => IO.eprintln s!"{n.severity.name} - {n.text}"
  | _ => return ()

end RowAlert.Executable

open RowAlert in
/-- Runs the program and gives its exit code. -/
def main (words : List String) : IO UInt32 := do
  let time := Number.ofRatio false (← IO.monoMsNow) 1000
  let surroundings : CommandLine.Surroundings Unit :=
    { transport := Executable.transport
      clock := fun world => (time, world)
      schedule := .inOrder
      files := ← Executable.files words
      environment := ← Executable.environment }
  -- Nothing is printed before the run has ended.
  let run := CommandLine.run surroundings words ()
  run.effects.forM Executable.report
  match run.value with
  | .returned conclusion =>
    IO.print conclusion.output
    if let some text := conclusion.complaint then
      CommandLine.Help.usage.forM IO.eprintln
      IO.eprintln (CommandLine.Help.complaintLine text)
    return conclusion.exitCode.toUInt32
  | .failed fault =>
    IO.eprintln s!"{fault.name}: {fault.message}"
    return 1
  | .hanging => return 1
