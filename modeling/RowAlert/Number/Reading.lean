import RowAlert.Number.Basic
import RowAlert.Text.Blank
import RowAlert.Text.Digit
/-!
# RowAlert.Number.Reading

Reading **numerals**.

A numeral is a sign, digits with perhaps a fraction, and perhaps an exponent; or one of the words
for infinity and NaN. Digits of every script are accepted, single underscores may stand between
digits, and blanks around the numeral do not matter. The value is the binary64 number nearest to the
decimal that is written, whatever its length: a decimal far out of range is decided by its magnitude
alone, so no exponent is too large to read.

Integers (`integerOf`) follow the same rules for signs, scripts, underscores and blanks, are never
rounded, and are limited in length instead.
-/

namespace RowAlert

-- Powers are those of the core library, whatever else is imported.
attribute [local instance (high)] instPowNat

namespace Numeral

/-- Blanks around a numeral: every blank except the information separators. -/
def isBlank (c : Char) : Bool := Text.isBlank c && !(28 ≤ c.toNat && c.toNat ≤ 31)

/-- Writes the digits of every script as `0` to `9`. -/
def plainDigit (c : Char) : Char :=
  match Text.digit? c with
  | some d => Char.ofNat (48 + d)
  | none => c

/-- Drops the blanks around a numeral. -/
def trim (cs : List Char) : List Char :=
  ((cs.dropWhile isBlank).reverse.dropWhile isBlank).reverse

/-- Removes the underscores, each of which must stand between two digits. `before` tells whether the
last character was a digit. -/
def dropUnderscores? : Bool → List Char → Option (List Char)
  | _, [] => some []
  | before, '_' :: cs =>
    match cs with
    | c :: _ => if before && c.isDigit then dropUnderscores? false cs else none
    | [] => none
  | _, c :: cs => (dropUnderscores? c.isDigit cs).map (c :: ·)

/-- A sign, if there is one, and what follows. -/
def splitSign : List Char → Bool × List Char
  | '-' :: cs => (true, cs)
  | '+' :: cs => (false, cs)
  | cs => (false, cs)

/-- The value of plain digits. -/
def digitsValue (cs : List Char) : Nat := cs.foldl (fun n c => 10 * n + (c.toNat - 48)) 0

/-- A number written in decimal: `± digits · 10 ^ exponent`. -/
structure Decimal where
  negative : Bool
  digits : Nat
  exponent : Int
  deriving Repr, DecidableEq

/-- An exponent part, which may be absent. -/
def exponentPart? : List Char → Option Int
  | [] => some 0
  | c :: cs =>
    if c = 'e' || c = 'E' then
      let (negative, digits) := splitSign cs
      if digits.isEmpty || !digits.all Char.isDigit then none
      else some (Number.signed negative (digitsValue digits))
    else none

/-- An unsigned decimal: digits on at least one side of the point, then an exponent part. -/
def decimal? (negative : Bool) (cs : List Char) : Option Decimal :=
  let whole := cs.takeWhile Char.isDigit
  let (fraction, rest) :=
    match cs.dropWhile Char.isDigit with
    | '.' :: ds => (ds.takeWhile Char.isDigit, ds.dropWhile Char.isDigit)
    | ds => ([], ds)
  if whole.isEmpty && fraction.isEmpty then none
  else
    (exponentPart? rest).map fun e =>
      ⟨negative, digitsValue (whole ++ fraction), e - fraction.length⟩

end Numeral

/-- How many digits a natural number has in decimal. -/
def decimalLength (n : Nat) : Nat := (Nat.toDigits 10 n).length

namespace Number

open Numeral

/-- The number nearest to a decimal. Beyond `10 ^ 310` nothing but its sign matters, and below
`10 ^ (-330)` neither. -/
def ofDecimal (d : Decimal) : Number :=
  let size : Int := decimalLength d.digits + d.exponent
  if d.digits = 0 || size < -330 then .finite d.negative .zero
  else if 310 < size then .infinite d.negative
  else ofRatio d.negative (d.digits * 10 ^ d.exponent.toNat) (10 ^ (-d.exponent).toNat)

/-- The number that a word stands for. -/
def ofWord? (negative : Bool) (cs : List Char) : Option Number :=
  let word := String.ofList (cs.map Char.toLower)
  if word = "inf" || word = "infinity" then some (.infinite negative)
  else if word = "nan" then some .nan
  else none

/-- The number that a numeral writes. -/
def ofChars? (cs : List Char) : Option Number :=
  match dropUnderscores? false (trim (cs.map plainDigit)) with
  | none => none
  | some plain =>
    let (negative, unsigned) := splitSign plain
    match decimal? negative unsigned with
    | some d => some (ofDecimal d)
    | none => ofWord? negative unsigned

/-- The number that a numeral writes. -/
def ofText? (s : String) : Option Number := ofChars? s.toList

end Number

namespace Numeral

/-- Why a text is no integer. -/
inductive IntegerFault
  /-- The text is no integer numeral. -/
  | malformed
  /-- The numeral has more digits than are admitted. -/
  | tooLong (digits : Nat)
  deriving Repr, DecidableEq

/-- The longest integer numeral that is read. -/
def maxIntegerDigits : Nat := 4300

/-- The complaint about a numeral with too many digits. -/
def tooLongText (digits : Nat) : String :=
  s!"Exceeds the limit ({maxIntegerDigits} digits) for integer string conversion: "
    ++ s!"value has {digits} digits; use sys.set_int_max_str_digits() to increase the limit"

/-- Reads digits with underscores, up to the first other character: the digits and the rest. An
underscore that does not stand between digits is not passed. -/
def digitRun : List Char → List Char × List Char
  | [] => ([], [])
  | c :: cs =>
    if c.isDigit then
      let (digits, rest) := digitRun cs
      (c :: digits, rest)
    else if c = '_' then
      match cs with
      | d :: _ => if d.isDigit then digitRun cs else ([], c :: cs)
      | [] => ([], c :: cs)
    else ([], c :: cs)

/-- The integer that a numeral writes. The limit on its length is checked before what follows its
digits. -/
def integerOf (s : String) : Except IntegerFault Int :=
  let (negative, unsigned) := splitSign (trim (s.toList.map plainDigit))
  match unsigned with
  | [] => .error .malformed
  | first :: _ =>
    let (digits, rest) := digitRun unsigned
    if !first.isDigit || rest.head? = some '_' then .error .malformed
    else if maxIntegerDigits < digits.length then .error (.tooLong digits.length)
    else if rest.isEmpty then .ok (Number.signed negative (digitsValue digits))
    else .error .malformed

end Numeral

end RowAlert
