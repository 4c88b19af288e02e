import RowAlert.Text.Quoted
import RowAlert.Value
/-!
# RowAlert.Relation

The **relations** that a condition may ask of two values.

Two values with numeric views are compared as numbers. Otherwise equality falls back to texts, while
an order between values that are not both numeric is an error rather than a silent "no". A missing
operand is an error before anything else is looked at.
-/

namespace RowAlert

/-- A comparison of two values. -/
inductive Relation
  | less
  | atMost
  | greater
  | atLeast
  | equal
  | different
  /-- A symbol that stands for no comparison. Conditions read from text never hold one. -/
  | other (symbol : String)
  deriving DecidableEq

/-- Why a condition has no truth value on a row. -/
inductive EvalError
  /-- A field that the condition needs is not in the row. -/
  | missingField (name : String)
  /-- An order was asked of texts. -/
  | notNumeric (left : String) (relation : Relation) (right : String)
  /-- The symbol stands for no comparison. -/
  | unknownRelation (symbol : String)
  /-- The condition holds a node of an unknown kind. -/
  | unknownNode (kind : String)
  deriving DecidableEq

namespace Relation

/-- The symbol of a relation. -/
def symbol : Relation → String
  | less => "<"
  | atMost => "<="
  | greater => ">"
  | atLeast => ">="
  | equal => "=="
  | different => "!="
  | other s => s

/-- The six comparisons. -/
def all : List Relation := [less, atMost, greater, atLeast, equal, different]

/-- The relation that a symbol stands for. -/
def ofSymbol (s : String) : Relation := (all.find? fun r => r.symbol = s).getD (other s)

/-- The relation on numbers. -/
def holds : Relation → Number → Number → Bool
  | less, x, y => x.less y
  | atMost, x, y => x.atMost y
  | greater, x, y => y.less x
  | atLeast, x, y => y.atMost x
  | equal, x, y => x.equal y
  | different, x, y => !x.equal y
  | other _, _, _ => false

/-- The relation on values without a numeric view: only equality makes sense there. -/
def holdsOnTexts? : Relation → String → String → Option Bool
  | equal, s, t => some (s = t)
  | different, s, t => some (s ≠ t)
  | _, _, _ => none

/-- The relation that holds exactly where this one does not. -/
def complement : Relation → Relation
  | less => atLeast
  | atLeast => less
  | atMost => greater
  | greater => atMost
  | equal => different
  | different => equal
  | other s => other s

end Relation

/-- The wording of an evaluation error. -/
def EvalError.message : EvalError → String
  | missingField name => s!"Field '{name}' is not present in row"
  | notNumeric left relation right =>
    let comparison := s!"{Text.quoted left} {relation.symbol} {Text.quoted right}"
    s!"Cannot compare {comparison}: operands are not numeric"
  | unknownRelation symbol => s!"Unknown comparison operator: {symbol}"
  | unknownNode kind => s!"Unknown expression node: {kind}"

/-- The name of evaluation errors in reports. -/
def EvalError.reportName : String := "EvaluationError"

/-- The field that an evaluation error is about. -/
def EvalError.field? : EvalError → Option String
  | missingField name => some name
  | _ => none

namespace Value

/-- Does the relation hold between the values? -/
def compare (relation : Relation) (left right : Value) : Except EvalError Bool :=
  match left, right with
  | missing name, _ => .error (.missingField name)
  | _, missing name => .error (.missingField name)
  | _, _ =>
    match relation with
    | .other symbol => .error (.unknownRelation symbol)
    | _ =>
      match left.number?, right.number? with
      | some x, some y => .ok (relation.holds x y)
      | _, _ =>
        match relation.holdsOnTexts? left.comparedText right.comparedText with
        | some answer => .ok answer
        | none => .error (.notNumeric left.toText relation right.toText)

/-- Does the value count as true? A number does unless it is zero, a text if it is one of the words
for true. -/
def truth : Value → Except EvalError Bool
  | missing name => .error (.missingField name)
  | v =>
    match v.number? with
    | some x => .ok (!x.isZero)
    | none => .ok (trueWords.contains (Text.lower (Text.trimmed v.toText)))

end Value

end RowAlert
