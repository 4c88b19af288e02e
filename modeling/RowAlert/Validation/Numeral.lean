import RowAlert.Number.Reading
/-!
# RowAlert.Validation.Numeral

Numerals in **settings**, where a string may stand for a number.

Only the digits `0` to `9` count. Blanks around a numeral do not matter, and underscores may divide
it: each of them stands alone and none at an end. An integer may have a sign, zeros in front, and a
fraction of zeros behind; what is left, with a minus sign, must not be longer than
`Numeral.maxIntegerDigits` characters.
-/

namespace RowAlert.Validation

/-- Do two underscores stand side by side? -/
def hasDoubleUnderscore : List Char → Bool
  | '_' :: '_' :: _ => true
  | _ :: cs => hasDoubleUnderscore cs
  | [] => false

/-- Removes underscores, none of which stands at an end or beside another one. -/
def withoutUnderscores? (cs : List Char) : Option (List Char) :=
  if cs.head? = some '_' || cs.getLast? = some '_' || hasDoubleUnderscore cs then none
  else some (cs.filter (· ≠ '_'))

/-! ### Numbers -/

/-- The number that a numeral without blanks and underscores writes. -/
def plainNumber? (cs : List Char) : Option Number :=
  let (negative, unsigned) := Numeral.splitSign cs
  match Numeral.decimal? negative unsigned with
  | some d => some (Number.ofDecimal d)
  | none => Number.ofWord? negative unsigned

/-- The number that a string writes, with blanks around it or with underscores in it. -/
def numberOfString? (s : String) : Option Number :=
  (plainNumber? (Numeral.trim s.toList)).or ((withoutUnderscores? s.toList).bind plainNumber?)

/-! ### Integers -/

/-- How the integer in a string may be unreadable. -/
inductive IntegerProblem
  | malformed
  | oversized
  deriving DecidableEq

/-- Is the character a digit other than zero? -/
def isLeadingDigit (c : Char) : Bool := '1' ≤ c && c ≤ '9'

/-- Removes zeros in front, with the underscores between them. A zero that is all there is before
the end or before a point stays. -/
def withoutLeadingZeros? : List Char → Option (List Char)
  | [] => none
  | '0' :: cs =>
    let isFiller (c : Char) : Bool := c = '0' || c = '_'
    let last := ('0' :: cs.takeWhile isFiller).getLast?.toList
    match cs.dropWhile isFiller with
    | [] => some last
    | '.' :: rest => some (last ++ '.' :: rest)
    | c :: rest => if isLeadingDigit c then some (c :: rest) else none
  | c :: cs => if isLeadingDigit c then some (c :: cs) else none

/-- Removes a fraction of zeros. -/
def withoutZeroFraction (cs : List Char) : List Char :=
  match cs.dropWhile (· ≠ '.') with
  | '.' :: c :: fraction =>
    if (c :: fraction).all (· = '0') then cs.takeWhile (· ≠ '.') else cs
  | _ => cs

/-- What is left to read of an integer numeral without blanks and sign. -/
def bareInteger? (unsigned : List Char) : Option (List Char) := do
  let significant ← withoutLeadingZeros? unsigned
  let whole := withoutZeroFraction significant
  return (withoutUnderscores? whole).getD whole

/-- Reads an integer that has no zeros in front. The length is checked before what follows the
digits. -/
def readInteger (negative : Bool) (unsigned : List Char) : Except IntegerProblem Int :=
  let digits := unsigned.takeWhile Char.isDigit
  if unsigned = ['0'] then .ok 0
  else if digits.isEmpty || digits.head? = some '0' then .error .malformed
  else if Numeral.maxIntegerDigits < digits.length + negative.toNat then .error .oversized
  else if digits = unsigned then .ok (Number.signed negative (Numeral.digitsValue digits))
  else .error .malformed

/-- The integer that a string writes. -/
def integerOfString (s : String) : Except IntegerProblem Int :=
  let (negative, unsigned) := Numeral.splitSign (Numeral.trim s.toList)
  match bareInteger? unsigned with
  | some bare => readInteger negative bare
  | none => .error .malformed

end RowAlert.Validation
