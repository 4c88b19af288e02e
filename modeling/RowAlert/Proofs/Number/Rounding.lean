import Mathlib.Tactic.Positivity
import Mathlib.Tactic.Ring
import RowAlert.Number.Shortest
/-!
# RowAlert.Proofs.Number.Rounding

What **rounding to the nearest number** keeps.

* It looks at the value of a ratio and not at how the ratio is written (`nearest?_congr`), so two
  decimals of one value are read as one number (`ofDecimal_scaled`).
* It leaves a magnitude as it is (`nearest?_units`), so the exact expansion of a magnitude reads
  back (`exact_readsAs`), and with it whatever `shortest` chooses (`shortest_readsAs`).
-/

namespace RowAlert

/-! ### Ratios -/

theorem roundHalfEven_mul_left {k : Nat} (hk : 0 < k) (a b : Nat) :
    roundHalfEven (k * a) (k * b) = roundHalfEven a b := by
  have hlt : 2 * (k * (a % b)) < k * b ↔ 2 * (a % b) < b := by
    rw [← Nat.mul_assoc, Nat.mul_comm 2 k, Nat.mul_assoc, Nat.mul_lt_mul_left hk]
  have hgt : k * b < 2 * (k * (a % b)) ↔ b < 2 * (a % b) := by
    rw [← Nat.mul_assoc, Nat.mul_comm 2 k, Nat.mul_assoc, Nat.mul_lt_mul_left hk]
  simp only [roundHalfEven, Nat.mul_div_mul_left a b hk, Nat.mul_mod_mul_left, hlt, hgt]

theorem nearestUnits_mul_left {k : Nat} (hk : 0 < k) (a b : Nat) :
    nearestUnits (k * a) (k * b) = nearestUnits a b := by
  simp only [nearestUnits, Nat.mul_div_mul_left a b hk, Nat.mul_assoc k, roundHalfEven_mul_left hk]

/-- Equal ratios have one nearest count of units. -/
theorem nearestUnits_congr {a b a' b' : Nat} (hb : 0 < b) (hb' : 0 < b')
    (h : a * b' = a' * b) : nearestUnits a b = nearestUnits a' b' := by
  calc nearestUnits a b = nearestUnits (b' * a) (b' * b) := (nearestUnits_mul_left hb' a b).symm
    _ = nearestUnits (b * a') (b * b') := by
      rw [Nat.mul_comm b' a, h, Nat.mul_comm a' b, Nat.mul_comm b' b]
    _ = nearestUnits a' b' := nearestUnits_mul_left hb a' b'

/-- A count that is a magnitude is nearest to itself. -/
theorem nearestUnits_units {units : Nat} (h : Representable units) : nearestUnits units 1 = units := by
  have hdvd : lastBit units ∣ units := h.2
  have hpos : 0 < lastBit units := Nat.two_pow_pos _
  simp only [nearestUnits, Nat.div_one, Nat.one_mul, roundHalfEven,
    Nat.mod_eq_zero_of_dvd hdvd, Nat.mul_zero, if_pos hpos]
  exact Nat.div_mul_cancel hdvd

namespace Magnitude

theorem nearest?_congr {a b a' b' : Nat} (hb : 0 < b) (hb' : 0 < b') (h : a * b' = a' * b) :
    nearest? a b = nearest? a' b' := by
  simp only [nearest?, nearestUnits_congr hb hb' h]

theorem nearest?_units (m : Magnitude) : nearest? m.units 1 = some m := by
  have hunits := nearestUnits_units m.representable
  simp only [nearest?, hunits, m.representable.1, dite_true]

end Magnitude

/-! ### The length of a number in decimal -/

theorem decimalLength_pos (n : Nat) : 0 < decimalLength n := Nat.length_toDigits_pos

theorem decimalLength_le_iff {n k : Nat} (hk : 0 < k) : decimalLength n ≤ k ↔ n < 10 ^ k :=
  Nat.length_toDigits_le_iff (by decide) hk

theorem lt_decimalLength_of_le {n k : Nat} (h : 10 ^ k ≤ n) : k < decimalLength n := by
  rcases Nat.eq_zero_or_pos k with rfl | hk
  · exact decimalLength_pos n
  · have hnot : ¬decimalLength n ≤ k := by
      rw [decimalLength_le_iff hk]
      omega
    omega

/-- Each zero at the end makes a number longer by one. -/
theorem decimalLength_mul_pow {n : Nat} (hn : 0 < n) (j : Nat) :
    decimalLength (n * 10 ^ j) = decimalLength n + j := by
  have hpow : 0 < 10 ^ j := Nat.pow_pos (by decide)
  have hpos := decimalLength_pos n
  have hupper : n < 10 ^ decimalLength n := (decimalLength_le_iff hpos).1 (Nat.le_refl _)
  have hlower : 10 ^ (decimalLength n - 1) ≤ n := by
    rcases Nat.eq_or_lt_of_le hpos with hone | hmore
    · rw [← hone]
      exact hn
    · have hnot : ¬decimalLength n ≤ decimalLength n - 1 := by omega
      rw [decimalLength_le_iff (by omega)] at hnot
      omega
  apply Nat.le_antisymm
  · rw [decimalLength_le_iff (by omega), Nat.pow_add]
    exact Nat.mul_lt_mul_of_pos_right hupper hpow
  · have hle : 10 ^ (decimalLength n - 1 + j) ≤ n * 10 ^ j := by
      rw [Nat.pow_add]
      exact Nat.mul_le_mul_right _ hlower
    have hlt := lt_decimalLength_of_le hle
    omega

/-! ### Decimals -/

namespace Number

-- Opened here once: a match on the rounded ratio would have its range limit evaluated.
theorem ofUnits_eq (negative : Bool) (a b : Nat) :
    ofUnits negative a b
      = (Magnitude.nearest? a b).elim (.infinite negative) (.finite negative) := by
  unfold ofUnits
  generalize Magnitude.nearest? a b = nearest
  cases nearest <;> rfl

theorem ofUnits_congr {a b a' b' : Nat} (hb : 0 < b) (hb' : 0 < b') (h : a * b' = a' * b)
    (negative : Bool) : ofUnits negative a b = ofUnits negative a' b' := by
  rw [ofUnits_eq, ofUnits_eq, Magnitude.nearest?_congr hb hb' h]

/-- The sign is no business of the rounding. -/
theorem ofUnits_signed {a b : Nat} {m : Magnitude} (h : ofUnits false a b = .finite false m)
    (negative : Bool) : ofUnits negative a b = .finite negative m := by
  rw [ofUnits_eq] at h ⊢
  generalize Magnitude.nearest? a b = nearest at h ⊢
  cases nearest with
  | none => cases h
  | some m' => rw [Option.elim_some, (Number.finite.inj h).2]

theorem ofUnits_units (negative : Bool) (m : Magnitude) :
    ofUnits negative m.units 1 = .finite negative m := by
  rw [ofUnits_eq, m.nearest?_units, Option.elim_some]

theorem ofDecimal_zero (negative : Bool) (exponent : Int) :
    ofDecimal ⟨negative, 0, exponent⟩ = .finite negative .zero := by
  simp only [ofDecimal, decide_true, Bool.true_or, if_true]

/-- The number of a decimal does not depend on how many zeros at the end are written. -/
theorem ofDecimal_scaled (negative : Bool) (digits j : Nat) (exponent : Int) :
    ofDecimal ⟨negative, digits * 10 ^ j, exponent - j⟩ = ofDecimal ⟨negative, digits, exponent⟩ := by
  rcases Nat.eq_zero_or_pos digits with rfl | hpos
  · rw [Nat.zero_mul, ofDecimal_zero, ofDecimal_zero]
  · have hsize : (decimalLength (digits * 10 ^ j) : Int) + (exponent - j)
        = (decimalLength digits : Int) + exponent := by
      rw [decimalLength_mul_pow hpos]
      omega
    have hzero : (digits * 10 ^ j = 0) = (digits = 0) := by
      simp
    have hexp : j + (exponent - j).toNat + (-exponent).toNat
        = exponent.toNat + (-(exponent - j)).toNat := by omega
    have hcross : ∀ u, digits * 10 ^ j * 10 ^ (exponent - j).toNat * u * 10 ^ (-exponent).toNat
        = digits * 10 ^ exponent.toNat * u * 10 ^ (-(exponent - j)).toNat := by
      intro u
      calc digits * 10 ^ j * 10 ^ (exponent - j).toNat * u * 10 ^ (-exponent).toNat
          = digits * u * 10 ^ (j + (exponent - j).toNat + (-exponent).toNat) := by
            rw [Nat.pow_add, Nat.pow_add]
            ring
        _ = digits * u * 10 ^ (exponent.toNat + (-(exponent - j)).toNat) := by rw [hexp]
        _ = digits * 10 ^ exponent.toNat * u * 10 ^ (-(exponent - j)).toNat := by
            rw [Nat.pow_add]
            ring
    have hratio : ∀ u, ofUnits negative (digits * 10 ^ j * 10 ^ (exponent - j).toNat * u)
          (10 ^ (-(exponent - j)).toNat)
        = ofUnits negative (digits * 10 ^ exponent.toNat * u) (10 ^ (-exponent).toNat) :=
      fun u => ofUnits_congr (by positivity) (by positivity) (hcross u) negative
    simp only [ofDecimal, hsize, hzero, ofRatio, hratio]

/-- The sign of a decimal is the sign of its number. -/
theorem ofDecimal_signed {digits : Nat} {exponent : Int} {m : Magnitude}
    (h : ofDecimal ⟨false, digits, exponent⟩ = .finite false m) (negative : Bool) :
    ofDecimal ⟨negative, digits, exponent⟩ = .finite negative m := by
  simp only [ofDecimal, ofRatio] at h ⊢
  split at h
  · rename_i hzero
    rw [if_pos hzero, (Number.finite.inj h).2]
  · rename_i hzero
    rw [if_neg hzero]
    split at h
    · cases h
    · rename_i hlarge
      rw [if_neg hlarge, ofUnits_signed h]

/-- A decimal that is neither too small nor too large is rounded. -/
theorem ofDecimal_of_moderate {digits : Nat} {exponent : Int} (hpos : 0 < digits)
    (hsmall : -330 ≤ (decimalLength digits : Int) + exponent)
    (hlarge : (decimalLength digits : Int) + exponent ≤ 310) (negative : Bool) :
    ofDecimal ⟨negative, digits, exponent⟩
      = ofRatio negative (digits * 10 ^ exponent.toNat) (10 ^ (-exponent).toNat) := by
  have hnot : ¬(digits = 0 ∨ (decimalLength digits : Int) + exponent < -330) := by omega
  simp only [ofDecimal, Bool.or_eq_true, decide_eq_true_eq, if_neg hnot,
    if_neg (Int.not_lt.2 hlarge)]

end Number

/-! ### Magnitudes in decimal -/

/-- The range of magnitudes ends at `2 ^ 1024`. -/
theorem unitsLimit_eq : unitsLimit = 2 ^ 1024 * unitsPerOne := by decide +kernel

theorem Magnitude.eq_zero_of_units {m : Magnitude} (h : m.units = 0) : m = .zero := by
  obtain ⟨units, hunits⟩ := m
  subst h
  rfl

namespace Number

/-- A whole number is read exactly. -/
theorem ofDecimal_of_whole {m : Magnitude} {n : Nat} (h : m.units = n * unitsPerOne)
    (negative : Bool) : ofDecimal ⟨negative, n, 0⟩ = .finite negative m := by
  rcases Nat.eq_zero_or_pos n with rfl | hpos
  · rw [ofDecimal_zero, Magnitude.eq_zero_of_units (h.trans (Nat.zero_mul _))]
  · -- The largest magnitudes have 309 digits.
    have hlength : decimalLength n ≤ 309 := by
      rw [decimalLength_le_iff (by decide)]
      have hlimit := m.representable.1
      rw [h, unitsLimit_eq] at hlimit
      exact Nat.lt_trans (Nat.lt_of_mul_lt_mul_right hlimit) (by decide +kernel)
    rw [ofDecimal_of_moderate hpos (by omega) (by omega), ofRatio, Int.toNat_zero, Int.neg_zero,
      Int.toNat_zero, Nat.pow_zero, Nat.mul_one, ← h, ofUnits_units]

end Number

namespace DecimalMagnitude

/-- The expansion of a magnitude in any count of parts that makes one unit a power of ten. -/
theorem ofDecimal_expansion (m : Magnitude) {parts : Nat} (hleast : 10 ^ 750 ≤ parts)
    (hmost : unitsLimit * parts < 10 ^ 1383) (hparts : unitsPerOne * parts = 10 ^ 1074) :
    Number.ofDecimal ⟨false, m.units * parts, -1074⟩ = .finite false m := by
  have hpositive : 0 < parts := Nat.lt_of_lt_of_le (Nat.pow_pos (by decide)) hleast
  rcases Nat.eq_zero_or_pos m.units with hzero | hpos
  · rw [hzero, Nat.zero_mul, Number.ofDecimal_zero, Magnitude.eq_zero_of_units hzero]
  · have hlower : 750 < decimalLength (m.units * parts) := by
      apply lt_decimalLength_of_le
      exact Nat.le_trans hleast (Nat.le_mul_of_pos_left parts hpos)
    have hupper : decimalLength (m.units * parts) ≤ 1383 := by
      rw [decimalLength_le_iff (by decide)]
      exact Nat.lt_trans (Nat.mul_lt_mul_of_pos_right m.representable.1 hpositive) hmost
    rw [Number.ofDecimal_of_moderate (Nat.mul_pos hpos hpositive) (by omega) (by omega),
      Number.ofRatio, show (-1074 : Int).toNat = 0 from rfl,
      show (-(-1074) : Int).toNat = 1074 from rfl, Nat.pow_zero, Nat.mul_one,
      ← Number.ofUnits_units false m]
    apply Number.ofUnits_congr (Nat.pow_pos (by decide)) Nat.one_pos
    rw [Nat.mul_one, Nat.mul_assoc, Nat.mul_comm parts, hparts]

/-- The exact expansion of a magnitude reads as the magnitude. -/
theorem exact_readsAs (m : Magnitude) : (exact m).ReadsAs m :=
  ofDecimal_expansion m (by decide +kernel) (by decide +kernel) (by decide +kernel)

/-- What is written of a magnitude reads as the magnitude. -/
theorem shortest_readsAs (m : Magnitude) : (shortest m).ReadsAs m := by
  unfold shortest
  dsimp only
  generalize (List.range 17).flatMap _ = candidates
  cases hfind : candidates.find? (fun (d : DecimalMagnitude) => decide (d.ReadsAs m)) with
  | none => exact exact_readsAs m
  | some d =>
    have hreads := List.find?_some hfind
    exact of_decide_eq_true hreads

end DecimalMagnitude

end RowAlert
