/-!
# RowAlert.Number.Basic

**Binary64 numbers**, exactly.

A finite number is a sign and a count of *units*, the smallest positive number `2 ^ (-1074)`. Every
finite binary64 number is a whole number of units, so order, equality, subtraction, rounding and
printing are arithmetic on natural numbers, and nothing about them is approximate or opaque.

Design points:

* A `Magnitude` carries the proof that its count has at most 53 significant bits and stays below the
  range limit. A value of the type therefore *is* a binary64 magnitude, and equal magnitudes are
  equal counts.
* `Magnitude.nearest?` rounds any ratio to the nearest magnitude, ties to even, in one division: the
  binade is read off the integer part, which never leaves the binade of the exact ratio.
* Zero keeps its sign, because the sign is printed. Comparison (`position`) ignores it, and gives
  NaN no place at all.
-/

namespace RowAlert

-- Powers are those of the core library, whatever else is imported.
attribute [local instance (high)] instPowNat

/-- How many units make one. -/
def unitsPerOne : Nat := 2 ^ (1074 : Nat)

/-- The least count of units that is out of range. -/
def unitsLimit : Nat := 2 ^ (2098 : Nat)

theorem unitsLimit_pos : 0 < unitsLimit := by
  unfold unitsLimit
  apply Nat.pow_pos
  decide

/-- A count of units that is a binary64 magnitude: in range, with at most 53 significant bits. -/
def Representable (units : Nat) : Prop := units < unitsLimit ∧ 2 ^ (units.log2 - 52) ∣ units

instance (units : Nat) : Decidable (Representable units) :=
  inferInstanceAs (Decidable (_ ∧ _))

/-- A finite binary64 magnitude. -/
structure Magnitude where
  units : Nat
  representable : Representable units
  deriving DecidableEq

/-- The quotient `a / b` rounded to the nearest natural number, a tie to the even one. -/
def roundHalfEven (a b : Nat) : Nat :=
  let q := a / b
  let twice := 2 * (a % b)
  if twice < b then q else if b < twice then q + 1 else if q % 2 = 0 then q else q + 1

theorem roundHalfEven_eq_or (a b : Nat) :
    roundHalfEven a b = a / b ∨ roundHalfEven a b = a / b + 1 := by
  simp only [roundHalfEven]
  split
  · exact .inl rfl
  · split
    · exact .inr rfl
    · split
      · exact .inl rfl
      · exact .inr rfl

/-- The weight of the last bit that a magnitude of `units` whole units can hold. -/
def lastBit (units : Nat) : Nat := 2 ^ (units.log2 - 52)

/-- The whole number of units nearest to `a / b` units among those with 53 significant bits. -/
def nearestUnits (a b : Nat) : Nat :=
  let s := lastBit (a / b)
  roundHalfEven a (b * s) * s

/-- Fifty-three bits, shifted, have at most 53 significant bits; so has the power of two behind. -/
theorem lastBit_dvd_mul_two_pow {k : Nat} (hk : k ≤ 2 ^ (53 : Nat)) (e : Nat) :
    2 ^ ((k * 2 ^ e).log2 - 52) ∣ k * 2 ^ e := by
  -- Rounding up a full mantissa gives `2 ^ 53`, one bit more, but a power of two.
  rcases Nat.eq_or_lt_of_le hk with rfl | hlt
  · rw [← Nat.pow_add, Nat.log2_two_pow]
    exact Nat.pow_dvd_pow 2 (by omega)
  · by_cases h0 : k * 2 ^ e = 0
    · rw [h0]; exact Nat.dvd_zero _
    · have hlog : (k * 2 ^ e).log2 < 53 + e := by
        rw [Nat.log2_lt h0, Nat.pow_add]
        exact Nat.mul_lt_mul_of_pos_right hlt (Nat.two_pow_pos e)
      exact Nat.dvd_trans (Nat.pow_dvd_pow 2 (by omega)) (Nat.dvd_mul_left _ _)

theorem div_lastBit_lt (q : Nat) : q / lastBit q < 2 ^ (53 : Nat) := by
  unfold lastBit
  rw [Nat.div_lt_iff_lt_mul (Nat.two_pow_pos _), ← Nat.pow_add]
  exact Nat.lt_of_lt_of_le Nat.lt_log2_self (Nat.pow_le_pow_right (by decide) (by omega))

/-- Rounding leaves at most 53 significant bits. -/
theorem lastBit_dvd_nearestUnits (a b : Nat) :
    2 ^ ((nearestUnits a b).log2 - 52) ∣ nearestUnits a b := by
  -- The quotient has 53 bits at most before it is rounded.
  have hk : roundHalfEven a (b * lastBit (a / b)) ≤ 2 ^ (53 : Nat) := by
    have hlt := div_lastBit_lt (a / b)
    rw [Nat.div_div_eq_div_mul] at hlt
    rcases roundHalfEven_eq_or a (b * lastBit (a / b)) with h | h <;> rw [h] <;> omega
  exact lastBit_dvd_mul_two_pow hk _

/-- The magnitude nearest to `a / b` units, ties to even; none if that is out of range. -/
def Magnitude.nearest? (a b : Nat) : Option Magnitude :=
  if h : nearestUnits a b < unitsLimit then
    some ⟨nearestUnits a b, h, lastBit_dvd_nearestUnits a b⟩
  else none

/-- The magnitude zero. -/
def Magnitude.zero : Magnitude := ⟨0, unitsLimit_pos, Nat.dvd_zero _⟩

/-- A binary64 number. -/
inductive Number
  /-- Not a number: it has no place in the order. -/
  | nan
  /-- An infinity. -/
  | infinite (negative : Bool)
  /-- A finite number; zero has a sign of its own. -/
  | finite (negative : Bool) (magnitude : Magnitude)
  deriving DecidableEq

namespace Number

instance : Inhabited Number := ⟨.finite false .zero⟩

/-- Positive zero. -/
def zero : Number := .finite false .zero

/-- The number nearest to a signed ratio of units; out of range it is an infinity. -/
def ofUnits (negative : Bool) (a b : Nat) : Number :=
  match Magnitude.nearest? a b with
  | some m => .finite negative m
  | none => .infinite negative

/-- The number nearest to the signed ratio `a / b`. -/
def ofRatio (negative : Bool) (a b : Nat) : Number := ofUnits negative (a * unitsPerOne) b

/-- The number nearest to an integer; none if it is out of range. -/
def ofInt? (i : Int) : Option Number :=
  match ofRatio (i < 0) i.natAbs 1 with
  | .finite negative m => some (.finite negative m)
  | _ => none

/-- One for true, zero for false. -/
def ofBool (b : Bool) : Number := ofRatio false b.toNat 1

/-- The sign of a number; NaN counts as positive. -/
def isNegative : Number → Bool
  | nan => false
  | infinite negative => negative
  | finite negative _ => negative

/-- Neither NaN nor infinite. -/
def isFinite : Number → Bool
  | finite _ _ => true
  | _ => false

/-- A signed count. -/
def signed (negative : Bool) (n : Nat) : Int := if negative then -(n : Int) else n

/-- The place of a number in the order, as a signed count of units; NaN has none. -/
def position : Number → Option Int
  | nan => none
  | infinite negative => some (signed negative unitsLimit)
  | finite negative m => some (signed negative m.units)

/-- Strictly less; false if either side is NaN. -/
def less (x y : Number) : Bool :=
  match x.position, y.position with
  | some a, some b => a < b
  | _, _ => false

/-- Less or equal; false if either side is NaN. -/
def atMost (x y : Number) : Bool :=
  match x.position, y.position with
  | some a, some b => a ≤ b
  | _, _ => false

/-- Numerically equal: the zeros are equal, and NaN equals nothing. -/
def equal (x y : Number) : Bool :=
  match x.position, y.position with
  | some a, some b => a = b
  | _, _ => false

/-- Equal to zero. -/
def isZero (x : Number) : Bool := x.position = some 0

/-- Finite without a fraction. -/
def isInteger : Number → Bool
  | finite _ m => m.units % unitsPerOne = 0
  | _ => false

/-- The integer part of a finite number, toward zero. -/
def truncated? : Number → Option Int
  | finite negative m => some (signed negative (m.units / unitsPerOne))
  | _ => none

/-- The difference, rounded to nearest. Equal infinities have none; equal finite numbers differ by a
zero that is negative only for `-0 - 0`. -/
def minus : Number → Number → Number
  | nan, _ | _, nan => nan
  | infinite s, infinite t => if s = t then nan else infinite s
  | infinite s, finite _ _ => infinite s
  | finite _ _, infinite t => infinite (!t)
  | finite s a, finite t b =>
    -- The difference is exact in units; only its last bits are rounded away.
    let difference := signed s a.units - signed t b.units
    if difference = 0 then finite (s && !t) .zero
    else ofUnits (difference < 0) difference.natAbs 1

/-! ### The order is total on everything but NaN -/

theorem equal_refl {x : Number} (h : x ≠ nan) : x.equal x = true := by
  cases x <;> simp_all [equal, position]

theorem less_or_equal_or_less {x y : Number} (hx : x ≠ nan) (hy : y ≠ nan) :
    x.less y = true ∨ x.equal y = true ∨ y.less x = true := by
  cases x <;> cases y <;> simp_all [less, equal, position] <;> omega

theorem atMost_iff {x y : Number} :
    x.atMost y = true ↔ x.less y = true ∨ x.equal y = true := by
  cases hx : x.position <;> cases hy : y.position <;> simp [atMost, less, equal, hx, hy]
  omega

end Number

end RowAlert
