import RowAlert.Condition.Tree
import RowAlert.Row
/-!
# RowAlert.Condition.Evaluate

The **truth of a condition** on a row.

Evaluation is a function of the condition and the row. `AND` and `OR` look at their right side only
if the left side leaves the answer open, so an error on a side that is never looked at does not
count. A field that the row does not have is an error and never a value.
-/

namespace RowAlert

/-- The value of an operand on a row. -/
def Operand.valueOn (row : Row) : Operand → Except EvalError Value
  | .literal v => .ok v
  | .field name =>
    match row.get? name with
    | some cell => .ok (.text cell)
    | none => .error (.missingField name)

namespace Condition

/-- Does the condition hold on the row? -/
def evaluate (row : Row) : Condition → Except EvalError Bool
  | .operand o => do
    let v ← o.valueOn row
    v.truth
  | .compare r left right => do
    let v ← left.valueOn row
    let w ← right.valueOn row
    Value.compare r v w
  | .and left right => do
    if ← left.evaluate row then right.evaluate row else return false
  | .or left right => do
    if ← left.evaluate row then return true else right.evaluate row
  | .not inner => do
    return !(← inner.evaluate row)
  | .unknown kind => .error (.unknownNode kind)

end Condition

end RowAlert
