import RowAlert.Condition.Parser
import RowAlert.Validation
/-!
# RowAlert.Rule

An **alert rule**: when the condition holds for a row, notify the channel.

A rule holds its condition as text. A text that is no condition is a matter of the rule alone: the
rule can be read and kept, it only cannot be compiled.
-/

namespace RowAlert

/-- An alert rule. -/
structure Rule where
  id : Int
  /-- The name of the channel to notify. -/
  channel : String
  condition : String
  /-- The template of the message. -/
  message : String
  enabled : Bool
  deriving DecidableEq

namespace Rule

/-- The rule that the fields of an object describe, or all that is wrong with them. Fields that
rules do not have are ignored. -/
def ofFields (fields : List (String × Json)) : Except (List FieldProblem) Rule :=
  let id := Validation.required fields "id" Validation.integer
  let channel := Validation.required fields "channel" Validation.nonemptyString
  let condition := Validation.required fields "condition" Validation.string
  let message := Validation.required fields "message" Validation.string
  let enabled := Validation.optional fields "enabled" Validation.boolean true
  match id, channel, condition, message, enabled with
  | .ok id, .ok channel, .ok condition, .ok message, .ok enabled =>
    .ok ⟨id, channel, condition, message, enabled⟩
  | id, channel, condition, message, enabled =>
    .error (Validation.problem id ++ Validation.problem channel ++ Validation.problem condition
      ++ Validation.problem message ++ Validation.problem enabled)

/-- The compiled condition. -/
def compile (rule : Rule) : Except ParseError Condition := Condition.compile rule.condition

end Rule

end RowAlert
