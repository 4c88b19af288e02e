import RowAlert.Json.Basic
import RowAlert.Number.Fixed
/-!
# RowAlert.Summary

**Summaries** of runs: what became of every match, with counts.

A summary is the list of results and nothing more. The counts, in total and for each rule, are
counts over that list, so they cannot disagree with it.
-/

namespace RowAlert

/-- What became of a match. -/
inductive Outcome
  | sent
  | failed
  /-- The condition could not be evaluated, and nothing was sent. -/
  | skipped
  deriving DecidableEq

namespace Outcome

/-- The name of an outcome in reports. -/
def name : Outcome → String
  | sent => "sent"
  | failed => "failed"
  | skipped => "skipped"

/-- All outcomes. -/
def all : List Outcome := [sent, failed, skipped]

end Outcome

/-- The result of a match. -/
structure MatchResult where
  ruleId : Int
  rowIndex : Int
  outcome : Outcome
  detail : String
  channel : Option String
  message : Option String
  retryCount : Int
  /-- The name of the fault, if there was one. -/
  errorName : Option String
  deriving DecidableEq

/-- The result as JSON. -/
def MatchResult.toJson (r : MatchResult) : Json :=
  .obj
    [("rule_id", .int r.ruleId), ("row_index", .int r.rowIndex), ("outcome", .str r.outcome.name),
      ("detail", .str r.detail), ("channel", .ofOption .str r.channel),
      ("rendered_message", .ofOption .str r.message), ("retry_count", .int r.retryCount),
      ("error_type", .ofOption .str r.errorName)]

/-- Counts of outcomes. -/
structure Counts where
  sent : Nat
  failed : Nat
  skipped : Nat
  deriving DecidableEq

namespace Counts

/-- Nothing counted. -/
def zero : Counts := ⟨0, 0, 0⟩

/-- Counts one more. -/
def add (c : Counts) : Outcome → Counts
  | .sent => { c with sent := c.sent + 1 }
  | .failed => { c with failed := c.failed + 1 }
  | .skipped => { c with skipped := c.skipped + 1 }

/-- The counts as JSON. -/
def toJson (c : Counts) : Json :=
  .obj [(Outcome.sent.name, .int c.sent), (Outcome.failed.name, .int c.failed),
    (Outcome.skipped.name, .int c.skipped)]

end Counts

/-- The summary of a run. -/
structure Summary where
  results : List MatchResult
  /-- The rules that were excluded, by id, with what is wrong with them. -/
  excluded : Entries Int String
  totalRules : Nat
  totalRows : Nat
  /-- The duration in seconds. -/
  duration : Number

namespace Summary

/-- How many results have an outcome. -/
def count (s : Summary) (outcome : Outcome) : Nat := s.results.countP fun r => r.outcome = outcome

/-- Counts one more result for its rule. -/
def tally (counts : Entries Int Counts) (r : MatchResult) : Entries Int Counts :=
  Entries.put counts r.ruleId (((Entries.get? counts r.ruleId).getD .zero).add r.outcome)

/-- The counts of each rule, in the order in which the rules first occur. -/
def byRule (s : Summary) : Entries Int Counts := s.results.foldl tally []

/-- The results other than messages sent. -/
def problems (s : Summary) : List MatchResult := s.results.filter fun r => r.outcome ≠ .sent

/-- The exit code of a run. Matches that failed are reported; they do not make the run a failure. -/
def exitCode (_ : Summary) : Nat := 0

/-- Entries by id as an object. -/
def byId (f : α → Json) (es : Entries Int α) : Json :=
  .obj (es.map fun (id, a) => (toString id, f a))

/-- The summary as JSON. -/
def toJson (s : Summary) : Json :=
  .obj
    [("total_rules", .int s.totalRules), ("total_rows", .int s.totalRows),
      ("total_matches", .int s.results.length), ("sent", .int (s.count .sent)),
      ("failed", .int (s.count .failed)), ("skipped", .int (s.count .skipped)),
      ("excluded_rules", byId .str s.excluded), ("by_rule", byId Counts.toJson s.byRule),
      ("duration_seconds", .float s.duration), ("results", .arr (s.results.map MatchResult.toJson))]

/-! ### Text -/

/-- The line above and below. -/
def rule : String := String.ofList (List.replicate 60 '=')

/-- A section, which is left out if it has no lines. -/
def section? (title : String) (lines : List String) : List String :=
  if lines.isEmpty then [] else "" :: title :: lines

/-- The line of an excluded rule. -/
def excludedLine : Int × String → String
  | (id, error) => s!"  {id}: {error}"

/-- The line of a rule's counts. -/
def countsLine : Int × Counts → String
  | (id, c) => s!"  {id}: sent={c.sent} failed={c.failed} skipped={c.skipped}"

/-- The line of a result that is a problem. -/
def problemLine (r : MatchResult) : String :=
  s!"  rule {r.ruleId} row {r.rowIndex} [{r.outcome.name}]: {r.detail}"

/-- The lines of the summary. -/
def lines (s : Summary) (dryRun : Bool) : List String :=
  ["", rule, "NOTIFICATION RUN SUMMARY", rule,
    s!"Rules: {s.totalRules}  Rows: {s.totalRows}",
    s!"Matches: {s.results.length}",
    s!"Sent: {s.count .sent}",
    s!"Failed: {s.count .failed}",
    s!"Skipped: {s.count .skipped}",
    s!"Duration: {s.duration.fixed 2}s"]
  ++ section? "Excluded rules:" (s.excluded.map excludedLine)
  ++ section? "By rule:" (s.byRule.map countsLine)
  ++ section? "Problems:" (s.problems.map problemLine)
  ++ (if dryRun then ["", "[DRY RUN MODE - No actual messages sent]"] else [])
  ++ [rule]

/-- The summary as text. -/
def text (s : Summary) (dryRun : Bool) : String := String.join ((s.lines dryRun).map (· ++ "\n"))

end Summary

end RowAlert
