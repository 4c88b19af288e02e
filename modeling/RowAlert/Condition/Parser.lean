import RowAlert.Condition.Token
import RowAlert.Condition.Tree
/-!
# RowAlert.Condition.Parser

**Reading a condition** from its tokens.

```
condition  := or_expr end
or_expr    := and_expr (OR and_expr)*
and_expr   := not_expr (AND not_expr)*
not_expr   := NOT not_expr | primary
primary    := "(" or_expr ")" | operand (relation operand)?
operand    := word | number | text
```

The reader is a machine that takes one token at a time. Its state holds what is pending on each
level of parentheses (the left side of an `OR`, the left side of an `AND`, the number of `NOT`s) and
what may come next. Reading a condition is folding `State.step` over the tokens.

Design points:

* Each token is taken once and nothing is looked at twice, so reading ends with the tokens, whatever
  they are.
* A state is an honest beginning of a condition. The first token that no condition could have here
  is the one that `step` refuses, so complaints point at it; the one exception is a level that
  cannot go on and is not closed, for which the complaint points at its opening parenthesis.
-/

namespace RowAlert

/-- A condition that could not be read: what is wrong, with which text, and where. -/
structure ParseError where
  complaint : Complaint
  condition : String
  position : Option Nat
  deriving DecidableEq

/-- The wording of a parse error. The place and the text are left out where there is none. -/
def ParseError.message (e : ParseError) : String :=
  let place :=
    match e.position with
    | some n => s!" at position {n}"
    | none => ""
  let source := if e.condition = "" then "" else s!" in condition {Text.quoted e.condition}"
  e.complaint.message ++ place ++ source

namespace Condition

/-- What is pending on one level of parentheses. -/
structure Level where
  /-- The left side of an `OR`. -/
  disjunct : Option Condition
  /-- The left side of an `AND`. -/
  conjunct : Option Condition
  /-- How many `NOT`s wait for their operand. -/
  negations : Nat
  /-- Where the level was opened; the outermost level was not. -/
  opened : Option Nat
  deriving DecidableEq

namespace Level

/-- A level on which nothing is pending. -/
def fresh (opened : Option Nat) : Level := ⟨none, none, 0, opened⟩

/-- Puts `n` negations in front of a condition. -/
def negated : Nat → Condition → Condition
  | 0, c => c
  | n + 1, c => .not (negated n c)

/-- The pending `AND` with its right side. -/
def conjunction (l : Level) (term : Condition) : Condition :=
  match l.conjunct with
  | some left => .and left (negated l.negations term)
  | none => negated l.negations term

/-- The pending `OR` with its right side: what the whole level reads so far. -/
def disjunction (l : Level) (term : Condition) : Condition :=
  match l.disjunct with
  | some left => .or left (l.conjunction term)
  | none => l.conjunction term

/-- The level after a term and an `AND`. -/
def afterAnd (l : Level) (term : Condition) : Level :=
  { l with conjunct := some (l.conjunction term), negations := 0 }

/-- The level after a term and an `OR`. -/
def afterOr (l : Level) (term : Condition) : Level :=
  { l with disjunct := some (l.disjunction term), conjunct := none, negations := 0 }

end Level

/-- What may come next. -/
inductive Expected
  /-- A term; `opened` tells that an opening parenthesis came directly before. -/
  | term (opened : Bool)
  /-- The right side of a comparison. -/
  | comparand (left : Operand) (relation : Relation)
  /-- A relation, or whatever follows a term, since an operand may stand alone. -/
  | relation (left : Operand)
  /-- Whatever follows a term: a connective or the end of the level. -/
  | connective (term : Condition)
  deriving DecidableEq

/-- How far a condition has been read. -/
structure State where
  expected : Expected
  level : Level
  /-- The levels around the current one, the nearest first. -/
  outer : List Level
  deriving DecidableEq

/-- A complaint and its place. -/
abbrev Refusal := Complaint × Nat

/-- The words for truth are texts in lower case; every other word names a field. -/
def operandOfWord (name : String) : Operand :=
  let folded := String.ofList (name.toList.map Char.toLower)
  if Value.truthWords.contains folded then .literal (.text folded) else .field name

/-- The operand that a lexeme writes. -/
def operandOf? : Lexeme → Option Operand
  | .number written => some (.literal (.number ((Number.ofText? written).getD .zero)))
  | .text content => some (.literal (.text content))
  | .word name => some (operandOfWord name)
  | _ => none

/-- The complaint about a token that is no operand where one has to stand. -/
def notOperand (t : Token) : Refusal :=
  match t.lexeme with
  | .closing => (.strayClosing, t.start)
  | .relation r => (.missingOperand r, t.start)
  | l => (.unexpectedToken l.label, t.start)

namespace State

/-- Nothing has been read yet. -/
def initial : State := ⟨.term false, .fresh none, []⟩

/-- Takes a token where a term may start. -/
def stepTerm (s : State) (opened : Bool) (t : Token) : Except Refusal State :=
  match t.lexeme with
  | .not =>
    let level := { s.level with negations := s.level.negations + 1 }
    .ok { s with expected := .term false, level := level }
  | .opening => .ok ⟨.term true, .fresh (some t.start), s.level :: s.outer⟩
  | .closing => .error (if opened then .emptyParentheses else .strayClosing, t.start)
  | l =>
    match operandOf? l with
    | some o => .ok { s with expected := .relation o }
    | none => .error (notOperand t)

/-- The complaint about a token that cannot follow a complete term. -/
def cannotFollow (l : Level) (t : Token) : Refusal :=
  match l.opened with
  | some start => (.unclosedOpening, start)
  | none =>
    (if t.lexeme.label = ")" then .strayClosing else .unexpectedToken t.lexeme.label, t.start)

/-- Takes a token behind a complete term. -/
def stepConnective (s : State) (term : Condition) (t : Token) : Except Refusal State :=
  match t.lexeme with
  | .and => .ok { s with expected := .term false, level := s.level.afterAnd term }
  | .or => .ok { s with expected := .term false, level := s.level.afterOr term }
  | .closing =>
    -- The level is complete; it is a term of the level around it.
    match s.outer with
    | [] => .error (cannotFollow s.level t)
    | level :: outer => .ok ⟨.connective (s.level.disjunction term), level, outer⟩
  | _ => .error (cannotFollow s.level t)

/-- Takes a token. -/
def step (s : State) (t : Token) : Except Refusal State :=
  match s.expected with
  | .term opened => s.stepTerm opened t
  | .comparand left r =>
    match operandOf? t.lexeme with
    | some right => .ok { s with expected := .connective (.compare r left right) }
    | none => .error (notOperand t)
  | .relation left =>
    match t.lexeme with
    | .relation r => .ok { s with expected := .comparand left r }
    | _ => s.stepConnective (.operand left) t
  | .connective term => s.stepConnective term t

/-- The term that is complete, if the condition may end here. -/
def term? : Expected → Option Condition
  | .relation left => some (.operand left)
  | .connective term => some term
  | _ => none

/-- The condition that was read, the text being over at `stop`. -/
def finish (s : State) (stop : Nat) : Except Refusal Condition :=
  match term? s.expected with
  | none => .error (.unexpectedEnd, stop)
  | some term =>
    match s.level.opened with
    | some start => .error (.unclosedOpening, start)
    | none => .ok (s.level.disjunction term)

end State

/-- The state after some tokens. -/
def State.run (s : State) (ts : List Token) : Except Refusal State := ts.foldlM State.step s

/-- Reads a condition from the tokens of a text of `stop` characters. -/
def parse (ts : List Token) (stop : Nat) : Except (Complaint × Option Nat) Condition :=
  if ts.isEmpty then .error (.empty, none)
  else
    match State.initial.run ts with
    | .error (complaint, pos) => .error (complaint, some pos)
    | .ok s =>
      match s.finish stop with
      | .error (complaint, pos) => .error (complaint, some pos)
      | .ok c => .ok c

/-- Reads a condition from its text. -/
def compile (text : String) : Except ParseError Condition :=
  let cs := text.toList
  if Text.allBlank cs then .error ⟨.empty, text, none⟩
  else
    match Token.scan cs with
    | .error (complaint, pos) => .error ⟨complaint, text, some pos⟩
    | .ok ts =>
      match parse ts cs.length with
      | .error (complaint, pos) => .error ⟨complaint, text, pos⟩
      | .ok c => .ok c

end Condition

end RowAlert
