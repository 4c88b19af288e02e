import RowAlert.Main
import RowAlert.Proofs.Number.Printing
import RowAlert.Proofs.Number.Digits
import RowAlert.Proofs.SendSlots
import RowAlert.Proofs.Condition.Numerals
import RowAlert.Proofs.Condition.Grammar
import RowAlert.Proofs.Condition.Completeness
import RowAlert.Proofs.Condition.Soundness
import RowAlert.Proofs.Condition.Scanning
import RowAlert.Proofs.Condition.Compiling
import RowAlert.Proofs.Condition.Refusal
import RowAlert.Proofs.Condition.Spelling
import RowAlert.Proofs.Condition.RoundTrip
import RowAlert.Proofs.Condition.Normalization
import RowAlert.Proofs.Condition.Evaluation
import RowAlert.Proofs.Condition.Lookahead
import RowAlert.Proofs.Condition.ShortCircuit
import RowAlert.Proofs.Condition.Literals
import RowAlert.Proofs.Except
import RowAlert.Proofs.Session
import RowAlert.Proofs.Settings
import RowAlert.Proofs.Registry
import RowAlert.Proofs.Overrides
import RowAlert.Proofs.Workers
import RowAlert.Proofs.Matching
import RowAlert.Proofs.Reuse
import RowAlert.Proofs.Calls
import RowAlert.Proofs.Accounting
import RowAlert.Proofs.Settling
import RowAlert.Proofs.Parallel
import RowAlert.Proofs.Building
import RowAlert.Proofs.Reporting
import RowAlert.Proofs.Attempts
import RowAlert.Proofs.Retries
import RowAlert.Proofs.Channels
import RowAlert.Proofs.MailSessions
import RowAlert.Proofs.DryRun
import RowAlert.Proofs.Loading
import RowAlert.Proofs.Program
import RowAlert.Proofs.Alerts
import RowAlert.Proofs.Comparison
import RowAlert.Proofs.Rendering
import RowAlert.Proofs.Lines
import RowAlert.Proofs.Columns
import RowAlert.Proofs.Table
import RowAlert.Proofs.Naming
import RowAlert.Proofs.Records
import RowAlert.Proofs.Json.Integers
import RowAlert.Proofs.LoadErrors
import RowAlert.Proofs.RuleFile
import RowAlert.Proofs.Condition.Lexemes
import RowAlert.Proofs.Condition.Partition
import RowAlert.Proofs.Condition.Layout
import RowAlert.Proofs.Condition.Descent
import RowAlert.Proofs.Condition.Simulation
import RowAlert.Proofs.Summary
