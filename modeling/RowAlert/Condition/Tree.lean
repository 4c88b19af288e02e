import RowAlert.Relation
/-!
# RowAlert.Condition.Tree

The **tree of a condition** and its normal spelling.

A tree is read-only data without positions: two spellings of one condition have equal trees. The
normal spelling (`Condition.source`) puts parentheses around every `AND` and `OR`, so that it never
depends on which of them binds tighter.

A tree that was built by hand may hold a node of an unknown kind. Such a node has no spelling and no
truth value; reading a text never makes one.
-/

namespace RowAlert

/-- A side of a comparison, or a condition of its own. -/
inductive Operand
  /-- The value of a field, looked up when the condition is evaluated. -/
  | field (name : String)
  | literal (value : Value)
  deriving DecidableEq

/-- A condition on a row. -/
inductive Condition
  /-- A bare operand, which holds if it counts as true. -/
  | operand (o : Operand)
  | compare (relation : Relation) (left right : Operand)
  | and (left right : Condition)
  | or (left right : Condition)
  | not (inner : Condition)
  /-- A node of a kind that conditions do not have. -/
  | unknown (kind : String)
  deriving DecidableEq

/-- Puts a backslash in front of backslashes and double quotes. -/
def escapeLiteral (cs : List Char) : List Char :=
  cs.flatMap fun c => if c = '\\' || c = '"' then ['\\', c] else [c]

namespace Operand

/-- The spelling of an operand: the name of a field, a number as it prints, a text in double
quotes. -/
def source : Operand → String
  | field name => name
  | literal (.text s) => String.ofList ('"' :: escapeLiteral s.toList ++ ['"'])
  | literal v => v.toText

/-- Equal as data. -/
def same : Operand → Operand → Bool
  | field m, field n => m = n
  | literal v, literal w => v.same w
  | _, _ => false

end Operand

namespace Condition

/-- The normal spelling of a condition. -/
def source : Condition → String
  | operand o => o.source
  | compare r left right => left.source ++ " " ++ r.symbol ++ " " ++ right.source
  | and left right => "(" ++ left.source ++ " AND " ++ right.source ++ ")"
  | or left right => "(" ++ left.source ++ " OR " ++ right.source ++ ")"
  | not inner => "NOT " ++ inner.source
  | unknown _ => ""

/-- The first node of an unknown kind, from the left. -/
def unknownKind? : Condition → Option String
  | operand _ | compare _ _ _ => none
  | and left right | or left right => left.unknownKind?.or right.unknownKind?
  | not inner => inner.unknownKind?
  | unknown kind => some kind

/-- The normal spelling, refused for a condition that has none. -/
def print (c : Condition) : Except EvalError String :=
  match c.unknownKind? with
  | some kind => .error (.unknownNode kind)
  | none => .ok c.source

/-- Equal trees, their numbers compared numerically. -/
def same : Condition → Condition → Bool
  | operand o, operand p => o.same p
  | compare r a b, compare s c d => r = s && a.same c && b.same d
  | and a b, and c d => a.same c && b.same d
  | or a b, or c d => a.same c && b.same d
  | not a, not b => a.same b
  | unknown k, unknown l => k = l
  | _, _ => false

/-- Pushes a negation inward: relations become their complements and `AND` and `OR` trade places;
only a bare operand keeps a `NOT`. -/
def negate : Condition → Condition
  | operand o => not (operand o)
  | compare r left right => compare r.complement left right
  | and left right => or left.negate right.negate
  | or left right => and left.negate right.negate
  | not inner => inner
  | unknown kind => not (unknown kind)

end Condition

end RowAlert
