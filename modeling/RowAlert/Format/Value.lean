import RowAlert.Format.Spec
import RowAlert.Json.Basic
import RowAlert.Number.Fixed
/-!
# RowAlert.Format.Value

Laying out **values** by a layout code.

Texts, integers and numbers have layouts of their own; truth values are laid out as the integers 0
and 1 unless the code is empty. Every other value takes the empty code only.
-/

namespace RowAlert.Format

-- Powers are those of the core library, whatever else is imported.
attribute [local instance (high)] instPowNat

/-! ### Texts -/

/-- Refuses the parts of a layout code that make no sense for a text. -/
def checkText (spec : Spec) : Except Fault Unit :=
  match spec.sign with
  | some ' ' => .error (.ofValue "Space not allowed in string format specifier")
  | some _ => .error (.ofValue "Sign not allowed in string format specifier")
  | none =>
    if spec.dropsZeroSign then
      .error (.ofValue "Negative zero coercion (z) not allowed in string format specifier")
    else if spec.alternate then
      .error (.ofValue "Alternate form (#) not allowed in string format specifier")
    else if spec.align = .afterSign then
      .error (.ofValue "'=' alignment not allowed in string format specifier")
    else .ok ()

/-- A text, cut to the precision and filled up to the width. -/
def formatText (code cs : List Char) : Except Fault (List Char) := do
  if code.isEmpty then return cs
  let spec ← Spec.read "str" 's' .left code
  if spec.type ≠ 's' then throw (Spec.unknownType "str" spec.type)
  checkText spec
  let kept :=
    match spec.precision with
    | some n => cs.take n
    | none => cs
  Written.fit ⟨[], [], [], kept⟩ spec

/-! ### Numbers -/

/-- The sign of a number as the layout code wants it. -/
def signOf (spec : Spec) (negative : Bool) : List Char :=
  if negative then ['-']
  else
    match spec.sign with
    | some '+' => ['+']
    | some ' ' => [' ']
    | _ => []

/-- No magnitude has more significant digits than that. -/
def mostDigits : Nat := 800

/-- No magnitude has more digits behind the point than that. -/
def mostPlaces : Nat := 1074

/-- A magnitude rounded to `n + 1` significant digits, a tie going to the even digit: the digits,
and how many of them stand before the point. -/
def significant (m : Magnitude) (n : Nat) : List Char × Int :=
  if m.units = 0 then (List.replicate (n + 1) '0', 1)
  else
    -- Digits beyond the last one that a magnitude can have are zeros.
    let kept := min n mostDigits
    let point := DecimalMagnitude.pointOf m
    let exponent := point - (kept + 1 : Nat)
    let near := roundHalfEven (m.units * 10 ^ (-exponent).toNat) (unitsPerOne * 10 ^ exponent.toNat)
    let digits := Nat.toDigits 10 near
    -- Rounding up to a power of ten makes one digit more.
    (digits.take (kept + 1) ++ List.replicate (n - kept) '0',
      point + (digits.length - (kept + 1) : Nat))

/-- Takes the zeros off the end of a fraction. -/
def trimmedFraction (alternate : Bool) (fraction : List Char) : List Char :=
  if alternate then fraction else stripZeros fraction

/-- A point and a fraction; the point alone only if it is asked for. -/
def pointed (alternate : Bool) (fraction : List Char) : List Char :=
  if fraction.isEmpty && !alternate then [] else '.' :: fraction

/-- Exponent form: one digit before the point. -/
def exponentForm (alternate : Bool) (digits : List Char) (point : Int) : List Char × List Char :=
  let exponent := point - 1
  let sign := if exponent < 0 then '-' else '+'
  (digits.take 1,
    pointed alternate (digits.drop 1) ++ 'e' :: sign :: Number.exponentDigits exponent.natAbs)

/-- Fixed form, with `places` digits behind the point. -/
def fixedForm (alternate : Bool) (m : Magnitude) (places : Nat) : List Char × List Char :=
  let kept := min places mostPlaces
  let written := Number.placed kept (roundHalfEven (m.units * 10 ^ kept) unitsPerOne)
  let whole := written.takeWhile (· ≠ '.')
  let fraction := written.drop (whole.length + 1) ++ List.replicate (places - kept) '0'
  (whole, pointed alternate fraction)

/-- General form: whichever of the two is shorter for a number of significant digits. A number that
keeps a fraction in any case leaves one digit for it. -/
def generalForm (alternate keepsFraction : Bool) (m : Magnitude) (precision : Nat) :
    List Char × List Char :=
  let n := if precision = 0 then 1 else precision
  -- Further digits are zeros, which are taken off again unless they are asked for.
  let (digits, point) := significant m ((if alternate then n else min n mostDigits) - 1)
  let limit : Int := if keepsFraction then n - 1 else n
  if point ≤ -4 || limit < point then
    let kept := digits.take 1 ++ trimmedFraction alternate (digits.drop 1)
    exponentForm alternate kept point
  else
    -- Below one, the digits are moved behind the point by zeros.
    let padded := List.replicate (1 - point).toNat '0' ++ digits
    let whole := (if point ≤ 0 then 1 else point).toNat
    let fraction := trimmedFraction alternate (padded.drop whole)
    let fraction := if fraction.isEmpty && keepsFraction then ['0'] else fraction
    (padded.take whole, pointed alternate fraction)

/-- The digits before the point of a magnitude, and the rest of it, in a type. -/
def magnitudeForm (spec : Spec) (m : Magnitude) : List Char × List Char :=
  let places := spec.precision.getD 6
  let type := spec.type.toLower
  if type = 'e' then
    let (digits, point) := significant m places
    exponentForm spec.alternate digits point
  else if type = 'f' || type = '%' then fixedForm spec.alternate m places
  else if type = 'g' || type = 'n' then generalForm spec.alternate false m places
  else
    match spec.precision with
    | some n => generalForm spec.alternate true m n
    | none =>
      let written := Number.magnitudeText m
      let rest := written.dropWhile Char.isDigit
      let needsPoint := spec.alternate && rest.head? ≠ some '.'
      (written.takeWhile Char.isDigit, if needsPoint then '.' :: rest else rest)

/-- A hundred times a number. -/
def timesHundred : Number → Number
  | .finite negative m => Number.ofUnits negative (m.units * 100) 1
  | x => x

/-- The greatest precision of a number. -/
def maxPrecision : Nat := 2 ^ (31 : Nat) - 1

/-- A number in a type for numbers. -/
def writeNumber (spec : Spec) (x : Number) : Except Fault Written :=
  let x := if spec.type = '%' then timesHundred x else x
  let percent := if spec.type = '%' then ['%'] else []
  let upperCase := ['E', 'F', 'G'].contains spec.type
  let cased (cs : List Char) := if upperCase then cs.map Char.toUpper else cs
  if maxPrecision < spec.precision.getD 0 then .error (.ofValue "precision too big")
  else
    match x with
    | .nan => .ok ⟨signOf spec false, [], [], cased "nan".toList ++ percent⟩
    | .infinite negative => .ok ⟨signOf spec negative, [], [], cased "inf".toList ++ percent⟩
    | .finite negative m =>
      let (whole, rest) := magnitudeForm spec m
      -- Zero as it is written: rounding may have taken all other digits.
      let isZero := (whole ++ rest.takeWhile (· ≠ 'e')).all fun c => c = '0' || c = '.'
      let sign := signOf spec (negative && !(spec.dropsZeroSign && isZero))
      .ok ⟨sign, [], whole, cased rest ++ percent⟩

/-- The types for numbers. -/
def numberTypes : List Char := ['e', 'E', 'f', 'F', 'g', 'G', '%']

/-- The digits of an integer in the base of a type, and the mark of that base. -/
def basedDigits (type : Char) (n : Nat) : List Char × List Char :=
  match type with
  | 'b' => (Nat.toDigits 2 n, ['0', 'b'])
  | 'o' => (Nat.toDigits 8 n, ['0', 'o'])
  | 'x' => (Nat.toDigits 16 n, ['0', 'x'])
  | 'X' => ((Nat.toDigits 16 n).map Char.toUpper, ['0', 'X'])
  | _ => (Nat.toDigits 10 n, [])

/-- An integer as the character with that code point. -/
def writeCharacter (spec : Spec) (i : Int) : Except Fault Written :=
  if spec.sign.isSome then
    .error (.ofValue "Sign not allowed with integer format specifier 'c'")
  else if spec.alternate then
    .error (.ofValue "Alternate form (#) not allowed with integer format specifier 'c'")
  else if i < -(2 ^ (63 : Nat)) || 2 ^ (63 : Nat) ≤ i then
    .error (.failure .overflow "Python int too large to convert to C long")
  else if i < 0 || 0x110000 ≤ i then
    .error (.failure .overflow "%c arg not in range(0x110000)")
  else .ok ⟨[], [], [], [Char.ofNat i.toNat]⟩

/-- An integer in a type for integers. -/
def writeInteger (spec : Spec) (i : Int) : Except Fault Written :=
  if spec.precision.isSome then
    .error (.ofValue "Precision not allowed in integer format specifier")
  else if spec.dropsZeroSign then
    .error (.ofValue "Negative zero coercion (z) not allowed in integer format specifier")
  else if spec.type = 'c' then writeCharacter spec i
  else
    let (digits, mark) := basedDigits spec.type i.natAbs
    .ok ⟨signOf spec (i < 0), if spec.alternate then mark else [], digits, []⟩

/-- An integer of some kind. -/
def formatInteger (kind : String) (code : List Char) (i : Int) : Except Fault (List Char) := do
  let spec ← Spec.read kind 'd' .right code
  if ['b', 'c', 'd', 'o', 'x', 'X', 'n'].contains spec.type then
    (← writeInteger spec i).fit spec
  else if numberTypes.contains spec.type then
    match Number.ofInt? i with
    | some x => (← writeNumber spec x).fit spec
    | none => throw (.failure .overflow "int too large to convert to float")
  else throw (Spec.unknownType kind spec.type)

/-- A number. -/
def formatNumber (code : List Char) (x : Number) : Except Fault (List Char) := do
  let spec ← Spec.read "float" '\x00' .right code
  if spec.type = '\x00' || spec.type = 'n' || numberTypes.contains spec.type then
    (← writeNumber spec x).fit spec
  else throw (Spec.unknownType "float" spec.type)

/-- The complaint about a layout code for a kind of value that has no layouts. -/
def noLayout (kind : String) : Fault :=
  .ofType s!"unsupported format string passed to {kind}.__format__"

/-- A value laid out by a code. -/
def format (code : List Char) (value : Json) : Except Fault (List Char) :=
  match value with
  | .str s => formatText code s.toList
  | value =>
    if code.isEmpty then .ok value.text.toList
    else
      match value with
      | .int i => formatInteger "int" code i
      | .bool b => formatInteger "bool" code (if b then 1 else 0)
      | .float x => formatNumber code x
      | value => .error (noLayout value.kind)

end RowAlert.Format
