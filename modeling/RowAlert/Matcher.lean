import RowAlert.Condition.Evaluate
import RowAlert.Rule
import RowAlert.Session
import RowAlert.Workers
/-!
# RowAlert.Matcher

The **matcher** evaluates every rule on every row.

Matches come in the order of the rules, and for each rule in the order of the rows. A pair that
cannot be evaluated is a match with an error, and the scan goes on. A rule whose condition does not
compile is excluded and takes no part.

A matcher may be used again and again. It remembers the conditions it has compiled, which saves
compiling them once more and nothing else; which rules are excluded is a matter of the last use
alone.
-/

namespace RowAlert

/-- A rule and a row on which its condition holds or cannot be evaluated. -/
structure Match where
  ruleIndex : Nat
  rowIndex : Int
  rule : Rule
  row : Row
  error : Option EvalError

/-- A rule that takes part, with its condition. -/
structure Candidate where
  ruleIndex : Nat
  rule : Rule
  condition : Condition

/-- What becomes of a rule before it meets any row. -/
inductive Standing
  | disabled
  | excluded (error : ParseError)
  | eligible (condition : Condition)

/-- Conditions by their texts. -/
abbrev CompiledConditions := Entries String Condition

namespace CompiledConditions

/-- The condition that a text writes, from memory if it is there. -/
def compile (memory : CompiledConditions) (text : String) : Except ParseError Condition :=
  match Entries.get? memory text with
  | some condition => .ok condition
  | none => Condition.compile text

/-- What becomes of a rule. -/
def standing (memory : CompiledConditions) (rule : Rule) : Standing :=
  if !rule.enabled then .disabled
  else
    match memory.compile rule.condition with
    | .ok condition => .eligible condition
    | .error e => .excluded e

/-- What there is to remember after a rule was looked at. -/
def remember (memory : CompiledConditions) (rule : Rule) : Standing → CompiledConditions
  | .eligible condition => Entries.put memory rule.condition condition
  | _ => memory

end CompiledConditions

/-- What a matcher keeps. -/
structure Matcher where
  workers : Workers
  memory : CompiledConditions
  /-- The rules that the last use excluded, by id, with what is wrong with them. -/
  excluded : Entries Int String

namespace Matcher

variable {ω : Type}

/-- A matcher that has not been used. -/
def fresh (workers : Workers) : Matcher := ⟨workers, [], []⟩

/-- Reports to the operator. -/
def say (severity : Severity) (text : String) : Session ω Unit :=
  .notify ⟨severity, .matching, text⟩

/-- What is reported about a rule before it meets any row. -/
def report (rule : Rule) : Standing → Session ω Unit
  | .disabled => say .info s!"Rule {rule.id} disabled, skipping"
  | .excluded e => say .error s!"Rule {rule.id} excluded: {e.message}"
  | .eligible _ => return ()

/-- Looks at the rules from index `index` on: those that take part, and the matcher with its memory
and its exclusions. -/
def selectFrom : Nat → Matcher → List Rule → Session ω (List Candidate × Matcher)
  | _, m, [] => return ([], m)
  | index, m, rule :: rules => do
    let standing := m.memory.standing rule
    report rule standing
    let memory := m.memory.remember rule standing
    match standing with
    | .disabled => selectFrom (index + 1) { m with memory := memory } rules
    | .excluded e =>
      let excluded := Entries.put m.excluded rule.id e.message
      selectFrom (index + 1) { m with memory := memory, excluded := excluded } rules
    | .eligible condition => do
      let (candidates, m) ← selectFrom (index + 1) { m with memory := memory } rules
      return (⟨index, rule, condition⟩ :: candidates, m)

/-- The match of a rule and a row, if there is one. The position of the row stands in for its index
if it does not know its own. -/
def meet? (c : Candidate) (position : Nat) (row : Row) : Option Match :=
  -- A row that was read from a file knows its index.
  let rowIndex := row.index.getD position
  match c.condition.evaluate row with
  | .ok true => some ⟨c.ruleIndex, rowIndex, c.rule, row, none⟩
  | .ok false => none
  | .error e => some ⟨c.ruleIndex, rowIndex, c.rule, row, some e⟩

/-- The matches of a rule with the rows from position `position` on. -/
def matchesFrom (c : Candidate) : Nat → List Row → List Match
  | _, [] => []
  | position, row :: rows => (meet? c position row).toList ++ matchesFrom c (position + 1) rows

/-- What is reported about a match. -/
def warning? (found : Match) : Option Notice :=
  found.error.map fun e =>
    ⟨.warning, .matching, s!"Rule {found.rule.id} skipped for row {found.rowIndex}: {e.message}"⟩

/-- Meets a rule with all rows. -/
def scan (rows : List Row) (c : Candidate) : Session ω (List Match) := do
  let found := matchesFrom c 0 rows
  Session.notifyAll (found.filterMap warning?)
  return found

/-- Meets all rules with all rows. -/
def run (m : Matcher) (rules : List Rule) (rows : List Row) : Session ω (List Match × Matcher) := do
  let (candidates, m) ← selectFrom 0 { m with excluded := [] } rules
  let perRule ← m.workers.gather (scan rows) candidates
  let found := perRule.flatten
  say .info
    s!"Matched {candidates.length} rules against {rows.length} rows: {found.length} candidates"
  return (found, m)

end Matcher

end RowAlert
