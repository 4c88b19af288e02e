import RowAlert.Number.Shortest
/-!
# RowAlert.Number.Fixed

Writing a number with a **fixed number of places**.

The exact value is rounded to the last place once, a tie going to the even digit. A sign stands in
front of a negative number even if all its digits round to zero.
-/

namespace RowAlert.Number

-- Powers are those of the core library, whatever else is imported.
attribute [local instance (high)] instPowNat

/-- A natural number of last places with a point before `places` digits. -/
def placed (places n : Nat) : List Char :=
  let ds := Nat.toDigits 10 n
  let padded := List.replicate (places + 1 - ds.length) '0' ++ ds
  let whole := padded.length - places
  if places = 0 then padded else padded.take whole ++ '.' :: padded.drop whole

/-- The number rounded to `places` places. -/
def fixed (places : Nat) : Number → String
  | nan => "nan"
  | infinite negative => if negative then "-inf" else "inf"
  | finite negative m =>
    let n := roundHalfEven (m.units * 10 ^ places) unitsPerOne
    String.ofList (signText negative ++ placed places n)

end RowAlert.Number
