import RowAlert.Number.Shortest
import RowAlert.Text.LetterCase
/-!
# RowAlert.Value

**Values** that conditions compare.

Cells of a row are texts, literals of a condition are numbers or texts, and a field that a row does
not have is a missing value that remembers its name. A value is compared as a number whenever it has
a numeric view (`Value.number?`); the view belongs to the value alone, so a numeral means the same
in a condition and in a cell.
-/

namespace RowAlert

/-- What an operand of a condition stands for. -/
inductive Value
  | number (x : Number)
  | text (s : String)
  /-- The value of a field that the row does not have. -/
  | missing (name : String)
  deriving DecidableEq

namespace Value

instance : Inhabited Value := ⟨missing ""⟩

/-- A cell that may be absent. -/
def ofCell (name : String) : Option String → Value
  | some s => text s
  | none => missing name

/-- The text of a value: numbers without a needless fraction, nothing for a missing value. -/
def toText : Value → String
  | number x => x.plainText
  | text s => s
  | missing _ => ""

/-- The numeric view of a value. A text has one if it is a numeral of a finite number, so that words
such as `Infinity` in a data file stay texts. -/
def number? : Value → Option Number
  | number x => some x
  | text s =>
    match Number.ofChars? (Text.trim s.toList) with
    | some x => if x.isFinite then some x else none
    | none => none
  | missing _ => none

/-- The words that count as true. -/
def trueWords : List String := ["true", "yes", "y", "on"]

/-- The truth words, which are compared without regard to letter case. -/
def truthWords : List String := ["true", "false"]

/-- What a value is compared as when it is not compared as a number. -/
def comparedText (v : Value) : String :=
  let folded := Text.lower v.toText
  if truthWords.contains folded then folded else v.toText

/-- Equal as data: numbers numerically, everything else exactly. -/
def same : Value → Value → Bool
  | number x, number y => x.equal y
  | text s, text t => s = t
  | missing m, missing n => m = n
  | _, _ => false

end Value

end RowAlert
