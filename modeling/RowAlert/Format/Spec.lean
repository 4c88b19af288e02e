import RowAlert.Fault
import RowAlert.Text.Digit
/-!
# RowAlert.Format.Spec

**Layout codes**: how a value is laid out in a format string.

```
[[fill] align] [sign] [z] [#] [0] [width] [separator] [. precision] [type]
```

`Spec.read` takes the parts from the left. What is left over at the end is the type, which must be a
single character. Whether a type suits a value is for the value to say.
-/

namespace RowAlert.Format

-- Powers are those of the core library, whatever else is imported.
attribute [local instance (high)] instPowNat

/-- Where a value stands in its width. -/
inductive Align
  | left
  | right
  | center
  /-- At the right, with the filling behind the sign. -/
  | afterSign
  deriving DecidableEq

/-- A layout code. -/
structure Spec where
  fill : Char
  align : Align
  sign : Option Char
  /-- Is a zero that rounding makes of a negative number written without its sign? -/
  dropsZeroSign : Bool
  alternate : Bool
  width : Nat
  separator : Option Char
  precision : Option Nat
  type : Char
  deriving DecidableEq

namespace Spec

/-- The alignment that a character stands for. -/
def align? : Char → Option Align
  | '<' => some .left
  | '>' => some .right
  | '^' => some .center
  | '=' => some .afterSign
  | _ => none

/-- A character in a message: as it is if it is a visible ASCII character, else by its code
point. -/
def shownChar (c : Char) : String :=
  if 32 < c.toNat && c.toNat < 128 then String.ofList [c]
  else "\\x" ++ String.ofList (Nat.toDigits 16 c.toNat)

/-- The greatest number that a layout code may hold. -/
def maxCount : Nat := 2 ^ (63 : Nat) - 1

/-- The digits at the front, and their number if there are any. -/
def count (cs : List Char) : Except Fault (Option Nat × List Char) :=
  let digits := cs.takeWhile Text.isDigit
  if digits.isEmpty then .ok (none, cs)
  else
    let n := digits.foldl (fun n c => 10 * n + (Text.digit? c).getD 0) 0
    if maxCount < n then .error (.ofValue "Too many decimal digits in format string")
    else .ok (some n, cs.drop digits.length)

/-- Fill and alignment, if they are there. -/
def splitAlign : List Char → Option Char × Option Align × List Char
  | c :: d :: cs =>
    match align? d, align? c with
    | some a, _ => (some c, some a, cs)
    | none, some a => (none, some a, d :: cs)
    | none, none => (none, none, c :: d :: cs)
  | [c] =>
    match align? c with
    | some a => (none, some a, [])
    | none => (none, none, [c])
  | [] => (none, none, [])

/-- A character at the front, if it is among some. -/
def splitOneOf (wanted : List Char) : List Char → Option Char × List Char
  | c :: cs => if wanted.contains c then (some c, cs) else (none, c :: cs)
  | [] => (none, [])

/-- The separator of thousands, if it is there. -/
def splitSeparator (cs : List Char) : Except Fault (Option Char × List Char) :=
  let both : Fault := .ofValue "Cannot specify both ',' and '_'."
  match splitOneOf [',', '_'] cs with
  | (some ',', '_' :: _) => .error both
  | (some '_', ',' :: _) => .error both
  | answer => .ok answer

/-- The precision, if it is there. -/
def splitPrecision : List Char → Except Fault (Option Nat × List Char)
  | '.' :: cs => do
    match ← count cs with
    | (none, _) => throw (.ofValue "Format specifier missing precision")
    | (some n, rest) => return (some n, rest)
  | cs => .ok (none, cs)

/-- May thousands be separated in a type? -/
def takesSeparator (separator type : Char) : Bool :=
  ['d', 'e', 'f', 'g', 'E', 'G', '%', 'F', '\x00'].contains type
    || separator = '_' && ['b', 'o', 'x', 'X'].contains type

/-- Reads a layout code for a value of some kind, whose default type and alignment are given. -/
def read (kind : String) (default : Char) (defaultAlign : Align) (written : List Char) :
    Except Fault Spec := do
  let (fill, align, cs) := splitAlign written
  let (sign, cs) := splitOneOf [' ', '+', '-'] cs
  let (zeroSign, cs) := splitOneOf ['z'] cs
  let (alternate, cs) := splitOneOf ['#'] cs
  let (zero, cs) := if fill.isNone then splitOneOf ['0'] cs else (none, cs)
  -- A zero in front of the width fills up behind the sign, unless an alignment is given.
  let fallback := if zero.isSome && defaultAlign = .right then .afterSign else defaultAlign
  let (width, cs) ← count cs
  let (separator, cs) ← splitSeparator cs
  let (precision, cs) ← splitPrecision cs
  let type ←
    match cs with
    | [] => pure default
    | [c] => pure c
    | _ =>
      throw (.ofValue
        s!"Invalid format specifier '{String.ofList written}' for object of type '{kind}'")
  match separator with
  | some s =>
    if !takesSeparator s type then
      throw (.ofValue s!"Cannot specify '{s}' with '{shownChar type}'.")
  | none => pure ()
  return ⟨(fill.or zero).getD ' ', align.getD fallback, sign, zeroSign.isSome, alternate.isSome,
    width.getD 0, separator, precision, type⟩

/-- The complaint about a type that a kind of value does not have. -/
def unknownType (kind : String) (type : Char) : Fault :=
  .ofValue s!"Unknown format code '{shownChar type}' for object of type '{kind}'"

end Spec

/-- The parts of a written number. -/
structure Written where
  sign : List Char
  /-- A mark of the base, which stands between sign and digits. -/
  mark : List Char
  /-- The digits that separators may go between. -/
  digits : List Char
  rest : List Char

namespace Written

/-- Puts a separator after every `size` digits that others follow. `since` counts the digits since
the last separator. -/
def separated (separator : Char) (size : Nat) : Nat → List Char → List Char
  | _, [] => []
  | since, c :: cs =>
    if since = size then separator :: c :: separated separator size 1 cs
    else c :: separated separator size (since + 1) cs

/-- Puts a separator between groups of `size` digits, counted from the last one. -/
def group (separator : Char) (size : Nat) (digits : List Char) : List Char :=
  (separated separator size 0 digits.reverse).reverse

/-- How wide some digits are with separators. -/
def groupedWidth (size digits : Nat) : Nat := digits + (digits - 1) / size

/-- Digits with separators, filled up with zeros to at least a width; no digits stay none. -/
def grouped (separator : Char) (size width : Nat) (digits : List Char) : List Char :=
  if digits.isEmpty then []
  else
    -- The fewest digits that reach the width together with their separators.
    let wanted := ((List.range (width + 1)).find? fun n => width ≤ groupedWidth size n).getD width
    group separator size (List.replicate (wanted - digits.length) '0' ++ digits)

/-- The number laid out. -/
def layOut (w : Written) (spec : Spec) : List Char :=
  let others := w.sign.length + w.mark.length + w.rest.length
  let digits :=
    match spec.separator with
    | some s =>
      let size := if ['b', 'o', 'x', 'X'].contains spec.type then 4 else 3
      let least := if spec.fill = '0' && spec.align = .afterSign then spec.width - others else 0
      grouped s size least w.digits
    | none => w.digits
  let padding := spec.width - (others + digits.length)
  let filling (n : Nat) := List.replicate n spec.fill
  let head := w.sign ++ w.mark
  let tail := digits ++ w.rest
  match spec.align with
  | .left => head ++ tail ++ filling padding
  | .right => filling padding ++ head ++ tail
  | .center => filling (padding / 2) ++ head ++ tail ++ filling (padding - padding / 2)
  | .afterSign => head ++ filling padding ++ tail

/-- No text is wider than that. -/
def widest : Nat := 2 ^ (40 : Nat)

/-- The number laid out, if there is room for it. -/
def fit (w : Written) (spec : Spec) : Except Fault (List Char) :=
  if widest < spec.width then .error (.failure .memory "") else .ok (w.layOut spec)

end Written

end RowAlert.Format
