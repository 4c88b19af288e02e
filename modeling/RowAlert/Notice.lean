/-!
# RowAlert.Notice

**Notices** for the operator: what the program reports about its own work while it runs.

A notice has a severity, the part of the program it comes from, and a text. Which notices are shown
is decided by a threshold on the severity and by nothing else.
-/

namespace RowAlert

/-- How serious a notice is. -/
inductive Severity
  | debug
  | info
  | warning
  | error
  deriving DecidableEq

namespace Severity

/-- The severity on the scale that thresholds use. -/
def rank : Severity → Nat
  | debug => 10
  | info => 20
  | warning => 30
  | error => 40

/-- The name of a severity. -/
def name : Severity → String
  | debug => "DEBUG"
  | info => "INFO"
  | warning => "WARNING"
  | error => "ERROR"

end Severity

/-- The part of the program that a notice comes from. -/
inductive Origin
  | loading
  | rendering
  | matching
  | registry
  /-- A channel, by the label of its kind. -/
  | channel (label : String)
  | dispatching
  | commandLine
  deriving DecidableEq

/-- A report to the operator. -/
structure Notice where
  severity : Severity
  origin : Origin
  text : String
  deriving DecidableEq

end RowAlert
