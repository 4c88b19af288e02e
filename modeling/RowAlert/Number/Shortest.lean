import RowAlert.Number.Reading
/-!
# RowAlert.Number.Shortest

Writing a number with the **fewest digits that read back**.

For one, two, … seventeen digits, `shortest` tests the value's two neighbours on that decimal grid,
the nearer one first, by reading them; the first that reads back is the answer. Should none do, the
exact decimal expansion is taken, so that what is written always reads back.

The spelling (`Number.text`) is a second step: exponents from -4 to 15 are written positionally,
with a fraction even if it is zero; other exponents have a sign and at least two digits.
-/

namespace RowAlert

-- Powers are those of the core library, whatever else is imported.
attribute [local instance (high)] instPowNat

/-- A decimal magnitude `digits · 10 ^ exponent`. -/
structure DecimalMagnitude where
  digits : Nat
  exponent : Int
  deriving Repr, DecidableEq

namespace DecimalMagnitude

/-- Does the decimal read as this magnitude? -/
def ReadsAs (d : DecimalMagnitude) (m : Magnitude) : Prop :=
  Number.ofDecimal ⟨false, d.digits, d.exponent⟩ = .finite false m

instance (d : DecimalMagnitude) (m : Magnitude) : Decidable (d.ReadsAs m) :=
  inferInstanceAs (Decidable (_ = _))

/-- The exact decimal expansion of a magnitude: `units · 2 ^ (-1074)` is
`units · 5 ^ 1074 · 10 ^ (-1074)`. -/
def exact (m : Magnitude) : DecimalMagnitude := ⟨m.units * 5 ^ (1074 : Nat), -1074⟩

/-- How many digits stand before the point of a positive magnitude; negative for the zeros directly
behind it. Scaling by a large power of ten makes the count one of whole digits. -/
def pointOf (m : Magnitude) : Int :=
  (decimalLength (m.units * 10 ^ (400 : Nat) / unitsPerOne) : Int) - 400

/-- The two neighbours of a magnitude on the grid of step `10 ^ exponent`, the nearer first. -/
def neighbours (m : Magnitude) (exponent : Int) : List DecimalMagnitude :=
  let a := m.units * 10 ^ (-exponent).toNat
  let b := unitsPerOne * 10 ^ exponent.toNat
  let near := roundHalfEven a b
  let below := a / b
  let far := if near = below then below + 1 else below
  [⟨near, exponent⟩, ⟨far, exponent⟩]

/-- The decimal with the fewest digits that reads as the magnitude. -/
def shortest (m : Magnitude) : DecimalMagnitude :=
  let point := pointOf m
  let candidates := (List.range 17).flatMap fun (n : Nat) => neighbours m (point - (n + 1 : Nat))
  (candidates.find? fun d => decide (d.ReadsAs m)).getD (exact m)

end DecimalMagnitude

/-- Takes the zeros off the end of some digits. -/
def stripZeros (ds : List Char) : List Char := (ds.reverse.dropWhile (· = '0')).reverse

namespace Number

/-- Digits with the point after `point` of them, zeros filling up on either side, and a fraction in
any case. -/
def positional (ds : List Char) (point : Int) : List Char :=
  if point ≤ 0 then '0' :: '.' :: List.replicate (-point).toNat '0' ++ ds
  else
    let whole := point.toNat
    let fraction := if ds.drop whole = [] then ['0'] else ds.drop whole
    ds.take whole ++ List.replicate (whole - ds.length) '0' ++ '.' :: fraction

/-- At least two digits of an exponent. -/
def exponentDigits (n : Nat) : List Char :=
  let ds := Nat.toDigits 10 n
  if ds.length < 2 then '0' :: ds else ds

/-- Digits with a point after the first and an exponent. -/
def scientific (ds : List Char) (exponent : Int) : List Char :=
  let mantissa :=
    match ds with
    | [] => ['0']
    | [d] => [d]
    | d :: rest => d :: '.' :: rest
  mantissa ++ 'e' :: (if exponent < 0 then '-' else '+') :: exponentDigits exponent.natAbs

/-- A magnitude in shortest form. -/
def magnitudeText (m : Magnitude) : List Char :=
  if m.units = 0 then ['0', '.', '0']
  else
    let d := DecimalMagnitude.shortest m
    -- Zeros at the end only say where the point is.
    let written := Nat.toDigits 10 d.digits
    let point := d.exponent + written.length
    let ds := stripZeros written
    if -4 < point && point ≤ 16 then positional ds point else scientific ds (point - 1)

/-- A minus sign where one is due. -/
def signText (negative : Bool) : List Char := if negative then ['-'] else []

/-- The number in shortest form. -/
def text : Number → String
  | nan => "nan"
  | infinite negative => if negative then "-inf" else "inf"
  | finite negative m => String.ofList (signText negative ++ magnitudeText m)

/-- The number as a person would write it: without a fraction if it has none. -/
def plainText (x : Number) : String :=
  match x.truncated? with
  | some i => if x.isInteger then toString i else x.text
  | none => x.text

end Number

end RowAlert
