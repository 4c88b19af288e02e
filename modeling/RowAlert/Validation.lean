import RowAlert.Json.Basic
import RowAlert.Validation.Numeral
/-!
# RowAlert.Validation

**Checking JSON values** that stand for typed fields.

A reader takes a value and gives what it stands for, or the problem with it. Fields of rules are
read strictly: an integer has to be written as one. Settings are read leniently: a numeral in a
string will do, and so will a number without a fraction where an integer is asked for.

All problems of a record are reported, in the order of its fields.
-/

namespace RowAlert

-- Powers are those of the core library, whatever else is imported.
attribute [local instance (high)] instPowNat

/-- What is wrong with a value. -/
inductive Problem
  /-- There is no value at all. -/
  | absent
  | notInteger
  /-- A string that is no integer numeral. -/
  | unreadableInteger
  /-- A numeral that is too long, or a number beyond 64 bits, where an integer is asked for. -/
  | oversizedInteger
  /-- A number with a fraction where an integer is asked for. -/
  | fractional
  /-- An infinity or NaN where an integer is asked for. -/
  | notFinite
  | notNumber
  /-- A string that is no numeral. -/
  | unreadableNumber
  | notString
  | emptyString
  | notBoolean
  /-- A string or a number that is no truth value. -/
  | unreadableBoolean
  /-- A number that is not greater than a bound. -/
  | notGreater (bound : Int)
  /-- A number below its least value. -/
  | belowLeast (bound : Int)
  deriving DecidableEq

/-- The wording of a problem. -/
def Problem.message : Problem → String
  | absent => "Field required"
  | notInteger => "Input should be a valid integer"
  | unreadableInteger => "Input should be a valid integer, unable to parse string as an integer"
  | oversizedInteger => "Unable to parse input string as an integer, exceeded maximum size"
  | fractional => "Input should be a valid integer, got a number with a fractional part"
  | notFinite => "Input should be a finite number"
  | notNumber => "Input should be a valid number"
  | unreadableNumber => "Input should be a valid number, unable to parse string as a number"
  | notString => "Input should be a valid string"
  | emptyString => "String should have at least 1 character"
  | notBoolean => "Input should be a valid boolean"
  | unreadableBoolean => "Input should be a valid boolean, unable to interpret input"
  | notGreater bound => s!"Input should be greater than {bound}"
  | belowLeast bound => s!"Input should be greater than or equal to {bound}"

/-- A problem with a field. -/
structure FieldProblem where
  field : String
  problem : Problem
  deriving DecidableEq

namespace Validation

/-! ### Strict readers -/

/-- An integer. -/
def integer : Json → Except Problem Int
  | .int i => .ok i
  | _ => .error .notInteger

/-- A string. -/
def string : Json → Except Problem String
  | .str s => .ok s
  | _ => .error .notString

/-- A string that is not empty. -/
def nonemptyString : Json → Except Problem String
  | .str s => if s = "" then .error .emptyString else .ok s
  | _ => .error .notString

/-! ### Lenient readers -/

/-- The strings for true, in any letter case. -/
def trueWords : List String := ["1", "on", "t", "true", "y", "yes"]

/-- The strings for false, in any letter case. -/
def falseWords : List String := ["0", "off", "f", "false", "n", "no"]

/-- A truth value written as an integer. -/
def booleanOfInt (i : Int) : Except Problem Bool :=
  if i = 0 then .ok false else if i = 1 then .ok true else .error .unreadableBoolean

/-- Does the integer fit into 64 bits? -/
def isWord (i : Int) : Bool := -(2 ^ (63 : Nat)) ≤ i && i < 2 ^ (63 : Nat)

/-- The integer that a number is, within 64 bits. The least of them is left out: a number there may
have been rounded. -/
def integerOfNumber (x : Number) : Except Problem Int :=
  match x.truncated? with
  | none => .error .notFinite
  | some i =>
    if !x.isInteger then .error .fractional
    else if isWord i && i ≠ -(2 ^ (63 : Nat)) then .ok i
    else .error .oversizedInteger

/-- A truth value: as such, as 0 or 1, or as one of the words. -/
def boolean : Json → Except Problem Bool
  | .bool b => .ok b
  | .int i => if isWord i then booleanOfInt i else .error .notBoolean
  | .float x =>
    match integerOfNumber x with
    | .ok i => booleanOfInt i
    | .error _ => .error .notBoolean
  | .str s =>
    let word := String.ofList (s.toList.map Char.toLower)
    if trueWords.contains word then .ok true
    else if falseWords.contains word then .ok false
    else .error .unreadableBoolean
  | _ => .error .notBoolean

/-- An integer: as such, as a truth value, as a number without fraction, or as a string. -/
def lenientInteger : Json → Except Problem Int
  | .int i => .ok i
  | .bool b => .ok (if b then 1 else 0)
  | .float x => integerOfNumber x
  | .str s =>
    (integerOfString s).mapError fun
      | .malformed => .unreadableInteger
      | .oversized => .oversizedInteger
  | _ => .error .notInteger

/-- A number: as such, as an integer in range, as a truth value, or as a string. -/
def lenientNumber : Json → Except Problem Number
  | .float x => .ok x
  | .int i =>
    match Number.ofInt? i with
    | some x => .ok x
    | none => .error .notNumber
  | .bool b => .ok (Number.ofBool b)
  | .str s =>
    match numberOfString? s with
    | some x => .ok x
    | none => .error .unreadableNumber
  | _ => .error .notNumber

/-! ### Fields -/

/-- Refuses integers below a bound. -/
def atLeast (bound : Int) (i : Int) : Except Problem Int :=
  if bound ≤ i then .ok i else .error (.belowLeast bound)

/-- Refuses numbers that are not positive. -/
def positive (x : Number) : Except Problem Number :=
  if Number.zero.less x then .ok x else .error (.notGreater 0)

/-- A field that has to be there. -/
def required (fields : List (String × Json)) (name : String) (read : Json → Except Problem α) :
    Except FieldProblem α :=
  match Entries.get? fields name with
  | some value => (read value).mapError (⟨name, ·⟩)
  | none => .error ⟨name, .absent⟩

/-- A field with a default. -/
def optional (fields : List (String × Json)) (name : String) (read : Json → Except Problem α)
    (default : α) : Except FieldProblem α :=
  match Entries.get? fields name with
  | some value => (read value).mapError (⟨name, ·⟩)
  | none => .ok default

/-- The problem of a field, if it has one. -/
def problem : Except FieldProblem α → List FieldProblem
  | .ok _ => []
  | .error p => [p]

end Validation

end RowAlert
