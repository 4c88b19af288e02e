import RowAlert.Matcher
import RowAlert.Registry
import RowAlert.SendSlots
import RowAlert.Summary
import RowAlert.Template
/-!
# RowAlert.Dispatcher

The **dispatcher** sends the message of every match to the channel of its rule.

Each match gives one result and causes one call to a channel at most. The dispatcher does not try
again; that is a matter of the channels. A call takes a send slot first (`RowAlert.SendSlots`), and
it is given up when it does not come back in time. Whatever a channel does, the result tells of it
and the run goes on.

Design points:

* The state of a dispatcher is a `Desk`: the world outside together with the send slots.
* A call ends in one of the ways of `CallEnd`. It never hangs: a channel that does not come back
  makes the call time out, and its slot stays taken.
* A timeout that a channel reports as a fault of its own looks like any other timeout.
-/

namespace RowAlert

/-- What a dispatcher works on. -/
structure Desk (ω : Type) where
  world : ω
  slots : SendSlots

/-- How a call to a channel ends. -/
inductive CallEnd
  | receipt (r : Receipt)
  | failed (fault : Fault)
  /-- The call does not come back in time, or says that something else did not. -/
  | timedOut
  /-- There was no slot for the call, and the channel was not called. -/
  | noSlot

/-- Sends messages to channels. -/
structure Dispatcher (ω : Type) where
  registry : Registry ω
  workers : Workers
  /-- How many calls may be under way at a time. -/
  sends : Nat
  sends_pos : 0 < sends
  /-- The seconds that a call may take, and those that it may wait for a slot. -/
  timeout : Json
  /-- The time in seconds. -/
  clock : ω → Number × ω

namespace Dispatcher

variable {ω : Type}

/-- Reports to the operator. -/
def say (severity : Severity) (text : String) : Session ω Unit :=
  .notify ⟨severity, .dispatching, text⟩

/-- A dispatcher with at least one worker and one send slot. -/
def make (registry : Registry ω) (workers sends : Int) (timeout : Json) (schedule : Schedule)
    (clock : ω → Number × ω) : Dispatcher ω :=
  ⟨registry, .ofCount workers schedule, max 1 sends.toNat, Nat.le_max_left 1 _, timeout, clock⟩

/-- What is reported about a new dispatcher. -/
def introduction (d : Dispatcher ω) : Notice :=
  let shape := s!"workers={d.workers.count}, sends={d.sends}, timeout={d.timeout.text}s"
  ⟨.info, .dispatching, s!"Initialized dispatcher with {d.registry.size} channels ({shape})"⟩

/-- The desk of a dispatcher that has done nothing yet. -/
def desk (d : Dispatcher ω) (world : ω) : Desk ω := ⟨world, .fresh d.sends⟩

/-- How a call ends that ended in time. -/
def endOf : Ending Receipt → CallEnd
  | .returned r => .receipt r
  | .failed fault => if fault.isTimeout then .timedOut else .failed fault
  | .hanging => .timedOut

/-- The step of the slots when a call ends. A call that hangs is only abandoned. -/
def lastStep (call : Nat) : Ending Receipt → SendStep
  | .hanging => .abandon call
  | _ => .finish call

/-- Calls a channel, if there is a slot. -/
def callChannel (channel : Channel ω) (message : String) (metadata : Metadata) :
    Session (Desk ω) CallEnd := fun desk =>
  let call := desk.slots.nextCall
  let arrived := desk.slots.after .arrive
  -- All slots are taken by calls that never came back, so waiting would not help.
  if arrived.free = 0 then ⟨.noSlot, [], { desk with slots := arrived.after (.reject call) }⟩
  else
    let submitted := (arrived.after (.acquire call)).after (.submit call)
    -- The channel is called with the slot taken; what it does cannot touch the slots.
    let run := channel.send message metadata desk.world
    ⟨endOf run.value, run.effects, ⟨run.world, submitted.after (lastStep call run.value)⟩⟩

/-- What is told to the channel about a match. -/
def metadataOf (rule : Rule) (row : Row) (rowIndex : Int) (missing : List String) : Metadata :=
  let known :=
    [(Metadata.ruleIdName, .int rule.id), (Metadata.rowIndexName, .int rowIndex),
      (Metadata.channelName, .str rule.channel), (Metadata.rowName, .ofTexts row.fields)]
  if missing.isEmpty then known
  else known ++ [(Metadata.missingName, .arr (missing.map .str))]

/-- What comes of a call: a receipt or a fault. -/
def answerOf (d : Dispatcher ω) (rule : Rule) : CallEnd → Except Fault Receipt
  | .receipt r => .ok r
  | .failed fault => .error fault
  | .timedOut =>
    .error (.delivery rule.channel s!"call timed out after {d.timeout.text}s" 0)
  | .noSlot =>
    .error (.delivery rule.channel s!"no send slot free within {d.timeout.text}s" 0)

/-- The result of a match that nothing has happened to yet. -/
def blank (rule : Rule) (rowIndex : Int) (rendered : Rendered) : MatchResult where
  ruleId := rule.id
  rowIndex := rowIndex
  outcome := .failed
  detail := ""
  channel := some rule.channel
  message := some rendered.text
  retryCount := 0
  errorName := none

/-- What a receipt makes of a result. -/
def withReceipt (blank : MatchResult) (r : Receipt) : MatchResult :=
  if r.success then
    { blank with
      outcome := .sent, detail := s!"sent via {r.channel}", retryCount := r.retryCount }
  else
    let error := r.error.getD ""
    { blank with
      detail := if error = "" then "send failed" else error
      retryCount := r.retryCount
      errorName := some Fault.deliveryName }

/-- What a fault makes of a result. -/
def withFault (blank : MatchResult) (fault : Fault) : MatchResult :=
  { blank with detail := fault.message, errorName := some fault.name }

/-- The result of a match for which there is no channel. -/
def withoutChannel (blank : MatchResult) (u : UnknownChannel) : MatchResult :=
  { blank with detail := u.message, errorName := some UnknownChannel.reportName }

/-- The result of a call. -/
def resultOf (blank : MatchResult) : Except Fault Receipt → MatchResult
  | .ok r => withReceipt blank r
  | .error fault => withFault blank fault

/-- What is reported about a call. -/
def noticeOf (rule : Rule) (result : MatchResult) (answer : Except Fault Receipt) : Notice :=
  let about := s!"Rule {result.ruleId} row {result.rowIndex}"
  match answer with
  | .ok r =>
    if r.success then ⟨.info, .dispatching, s!"{about}: sent via {rule.channel}"⟩
    else ⟨.warning, .dispatching, s!"{about}: send failed: {result.detail}"⟩
  | .error fault =>
    if fault.isDelivery then ⟨.warning, .dispatching, s!"{about}: {fault.message}"⟩
    else ⟨.error, .dispatching, s!"{about}: channel raised {fault.message}"⟩

/-- Sends the message of a rule for a row with an index. -/
def dispatchAt (d : Dispatcher ω) (rule : Rule) (row : Row) (rowIndex : Int) :
    Session (Desk ω) MatchResult := do
  let rendered := Rendered.ofTemplate rule.message row (some rowIndex)
  Session.notifyAll rendered.notices
  let blank := blank rule rowIndex rendered
  match d.registry.get rule.channel with
  | .error u =>
    say .warning s!"Rule {rule.id} row {rowIndex}: {u.message}"
    return withoutChannel blank u
  | .ok channel =>
    let metadata := metadataOf rule row rowIndex rendered.missing
    let ending ← callChannel channel rendered.text metadata
    let answer := d.answerOf rule ending
    let result := resultOf blank answer
    Session.notify (noticeOf rule result answer)
    return result

/-- Sends the message of a rule for a row. A record without an index is not a row. -/
def dispatch (d : Dispatcher ω) (rule : Rule) (row : Row) : Call (Desk ω) MatchResult :=
  match row.index with
  | some rowIndex => Call.ofSession (d.dispatchAt rule row rowIndex)
  | none => Call.ofExcept (.error (.noMember (Json.obj []).kind "index"))

/-- The result of a match that cannot be evaluated. -/
def skipped (found : Match) (error : EvalError) : MatchResult where
  ruleId := found.rule.id
  rowIndex := found.rowIndex
  outcome := .skipped
  detail := error.message
  channel := some found.rule.channel
  message := none
  retryCount := 0
  errorName := some EvalError.reportName

/-- Settles a match. -/
def settle (d : Dispatcher ω) (found : Match) : Call (Desk ω) MatchResult :=
  match found.error with
  | some error => return skipped found error
  | none => d.dispatch found.rule found.row

/-- Settles all matches; the results are in the order of the matches. -/
def settleAll (d : Dispatcher ω) (found : List Match) : Call (Desk ω) (List MatchResult) :=
  d.workers.gather d.settle found

/-- Reads the clock. -/
def now (d : Dispatcher ω) : Session (Desk ω) Number :=
  .consult fun desk =>
    let (time, world) := d.clock desk.world
    (time, { desk with world := world })

/-- What is reported about a summary. -/
def conclusion (s : Summary) : String :=
  let counts := s!"{s.count .sent} sent, {s.count .failed} failed, {s.count .skipped} skipped"
  s!"Run complete: {counts} in {s.duration.fixed 2}s"

/-- Matches all rules with all rows and settles every match. -/
def run (d : Dispatcher ω) (matcher : Matcher) (rules : List Rule) (rows : List Row) :
    Call (Desk ω) Summary := do
  let start ← Call.ofSession d.now
  Call.ofSession (say .info s!"Starting run: {rules.length} rules x {rows.length} rows")
  let (found, matcher) ← Call.ofSession (matcher.run rules rows)
  let results ← d.settleAll found
  let stop ← Call.ofSession d.now
  let summary : Summary :=
    ⟨results, matcher.excluded, rules.length, rows.length, stop.minus start⟩
  Call.ofSession (say .info (conclusion summary))
  return summary

/-- Releases the pool without waiting for calls that are still under way. -/
def close : Session (Desk ω) Unit := fun desk =>
  ⟨(), [], { desk with slots := desk.slots.after .close }⟩

end Dispatcher

end RowAlert
