import RowAlert.Proofs.Number.Numeral
import RowAlert.Proofs.Number.Rounding
/-!
# RowAlert.Proofs.Number.Printing

**Finite numbers print as numerals that read back.**

A printed number is the text of a `NumeralForm`, whichever way it is laid out: as an integer, with
its point in place, or with an exponent. Each layout writes the digits of the shortest decimal up to
zeros at the end, which rounding does not see (`Number.ofDecimal_scaled`), so the number read from
the text is the number that was printed; only a negative zero loses its sign.
-/

namespace RowAlert

/-! ### Digits -/

theorem isDigit_of_mem_toDigits {n : Nat} {c : Char} (h : c ∈ Nat.toDigits 10 n) :
    c.isDigit = true :=
  Nat.isDigit_of_mem_toDigits (by decide) (by decide) h

namespace Numeral

theorem digitsValue_toDigits (n : Nat) : digitsValue (Nat.toDigits 10 n) = n :=
  Nat.ofDigitChars_ten_toDigits

theorem digitsValue_append (cs ds : List Char) :
    digitsValue (cs ++ ds) = digitsValue cs * 10 ^ ds.length + digitsValue ds := by
  have h : digitsValue (cs ++ ds) = Nat.ofDigitChars 10 ds (digitsValue cs) :=
    Nat.ofDigitChars_append 0
  rw [h, Nat.ofDigitChars_eq_ofDigitChars_zero, Nat.mul_comm]
  rfl

theorem digitsValue_zeros (k : Nat) : digitsValue (List.replicate k '0') = 0 :=
  Nat.ofDigitChars_replicate_zero

/-- Zeros in front do not count. -/
theorem digitsValue_zeros_append (k : Nat) (cs : List Char) :
    digitsValue (List.replicate k '0' ++ cs) = digitsValue cs := by
  rw [digitsValue_append, digitsValue_zeros, Nat.zero_mul, Nat.zero_add]

/-- Zeros at the end multiply. -/
theorem digitsValue_append_zeros (cs : List Char) (k : Nat) :
    digitsValue (cs ++ List.replicate k '0') = digitsValue cs * 10 ^ k := by
  rw [digitsValue_append, digitsValue_zeros, Nat.add_zero, List.length_replicate]

end Numeral

/-- Only zeros are taken off the end. -/
theorem stripZeros_append_zeros (ds : List Char) :
    ∃ k, stripZeros ds ++ List.replicate k '0' = ds := by
  refine ⟨(ds.reverse.takeWhile (· = '0')).length, ?_⟩
  have hzeros : ds.reverse.takeWhile (· = '0')
      = List.replicate (ds.reverse.takeWhile (· = '0')).length '0' := by
    rw [List.eq_replicate_iff]
    exact ⟨rfl, fun c hc => of_decide_eq_true (List.all_eq_true.1 List.all_takeWhile c hc)⟩
  have hsplit := congrArg List.reverse
    (List.takeWhile_append_dropWhile (p := fun c => decide (c = '0')) (l := ds.reverse))
  rw [List.reverse_append, List.reverse_reverse] at hsplit
  rw [← List.reverse_replicate, ← hzeros]
  exact hsplit

namespace NumeralForm

open Numeral

/-! ### Layouts -/

/-- A whole number. -/
def ofWhole (negative : Bool) (n : Nat) : NumeralForm := ⟨negative, Nat.toDigits 10 n, none, none⟩

/-- Digits with the point in place. -/
def ofPositional (negative : Bool) (ds : List Char) (point : Int) : NumeralForm :=
  if point ≤ 0 then
    ⟨negative, ['0'], some (List.replicate (-point).toNat '0' ++ ds), none⟩
  else
    let whole := point.toNat
    ⟨negative, ds.take whole ++ List.replicate (whole - ds.length) '0',
      some (if ds.drop whole = [] then ['0'] else ds.drop whole), none⟩

/-- Digits with an exponent, the first digit standing before the point. -/
def ofScientific (negative : Bool) (d : Char) (ds : List Char) (exponent : Int) : NumeralForm :=
  ⟨negative, [d], if ds = [] then none else some ds,
    some ⟨false, some (exponent < 0), Number.exponentDigits exponent.natAbs⟩⟩

theorem chars_ofWhole (negative : Bool) (n : Nat) :
    (ofWhole negative n).chars = Number.signText negative ++ Nat.toDigits 10 n := by
  simp [chars, unsignedChars, ofWhole, fractionChars, exponentChars]

theorem chars_ofPositional (negative : Bool) (ds : List Char) (point : Int) :
    (ofPositional negative ds point).chars
      = Number.signText negative ++ Number.positional ds point := by
  unfold ofPositional Number.positional
  split
  · simp [chars, unsignedChars, fractionChars, exponentChars]
  · simp [chars, unsignedChars, fractionChars, exponentChars]

theorem chars_ofScientific (negative : Bool) (d : Char) (ds : List Char) (exponent : Int) :
    (ofScientific negative d ds exponent).chars
      = Number.signText negative ++ Number.scientific (d :: ds) exponent := by
  have hsign : ExponentForm.signChars (some (decide (exponent < 0)))
      = [if exponent < 0 then '-' else '+'] := by
    by_cases h : exponent < 0 <;> simp [h, ExponentForm.signChars]
  cases ds <;>
    simp [ofScientific, chars, unsignedChars, fractionChars, exponentChars, ExponentForm.chars,
      hsign, ExponentForm.markChar, Number.scientific]

/-! ### Digits of the layouts -/

theorem valid_ofWhole (negative : Bool) (n : Nat) :
    (ofWhole negative n).Valid Char.isDigit where
  whole := fun _ hc => isDigit_of_mem_toDigits hc
  fraction := fun _ hc => absurd hc List.not_mem_nil
  nonempty := .inl (List.ne_nil_of_length_pos Nat.length_toDigits_pos)
  exponent := fun _ he => nomatch he

theorem valid_ofPositional (negative : Bool) {ds : List Char} (point : Int)
    (hds : ∀ c ∈ ds, c.isDigit = true) : (ofPositional negative ds point).Valid Char.isDigit := by
  have hzeros : ∀ k, ∀ c ∈ List.replicate k '0', c.isDigit = true := by
    intro k c hc
    rw [List.eq_of_mem_replicate hc]
    rfl
  unfold ofPositional
  dsimp only
  split
  · refine ⟨hzeros 1, ?_, .inl (List.cons_ne_nil _ _), fun _ he => nomatch he⟩
    intro c hc
    rcases List.mem_append.1 hc with hc | hc
    · exact hzeros _ c hc
    · exact hds c hc
  · refine ⟨?_, ?_, .inr ?_, fun _ he => nomatch he⟩
    · intro c hc
      rcases List.mem_append.1 hc with hc | hc
      · exact hds c (List.mem_of_mem_take hc)
      · exact hzeros _ c hc
    · intro c hc
      by_cases hdrop : ds.drop point.toNat = []
      · rw [fractionDigits, Option.getD_some, if_pos hdrop] at hc
        exact hzeros 1 c hc
      · rw [fractionDigits, Option.getD_some, if_neg hdrop] at hc
        exact hds c (List.mem_of_mem_drop hc)
    · by_cases hdrop : ds.drop point.toNat = [] <;> simp [fractionDigits, hdrop]

theorem isDigit_of_mem_exponentDigits {n : Nat} {c : Char} (h : c ∈ Number.exponentDigits n) :
    c.isDigit = true := by
  unfold Number.exponentDigits at h
  dsimp only at h
  split at h
  · rcases List.mem_cons.1 h with rfl | h
    · rfl
    · exact isDigit_of_mem_toDigits h
  · exact isDigit_of_mem_toDigits h

theorem digitsValue_exponentDigits (n : Nat) : digitsValue (Number.exponentDigits n) = n := by
  unfold Number.exponentDigits
  dsimp only
  split
  · exact (digitsValue_zeros_append 1 _).trans (digitsValue_toDigits n)
  · exact digitsValue_toDigits n

theorem valid_ofScientific (negative : Bool) {d : Char} {ds : List Char} (exponent : Int)
    (hds : ∀ c ∈ d :: ds, c.isDigit = true) :
    (ofScientific negative d ds exponent).Valid Char.isDigit := by
  refine ⟨?_, ?_, .inl (List.cons_ne_nil _ _), ?_⟩
  · intro c hc
    exact hds c (List.mem_cons.2 (.inl (List.mem_singleton.1 hc)))
  · intro c hc
    refine hds c (List.mem_cons_of_mem d ?_)
    by_cases hnil : ds = []
    · simp [ofScientific, fractionDigits, hnil] at hc
    · simpa [ofScientific, fractionDigits, hnil] using hc
  · rintro e ⟨⟩
    refine ⟨?_, fun c hc => isDigit_of_mem_exponentDigits hc⟩
    unfold Number.exponentDigits
    dsimp only
    split
    · exact List.cons_ne_nil _ _
    · exact List.ne_nil_of_length_pos Nat.length_toDigits_pos

/-! ### Values of the layouts -/

theorem decimal_ofWhole (negative : Bool) (n : Nat) :
    (ofWhole negative n).decimal = ⟨negative, n, 0⟩ := by
  simp [decimal, ofWhole, fractionDigits, digitsValue_toDigits]

/-- With the point in place, zeros may have to fill up to it. -/
theorem decimal_ofPositional (negative : Bool) (ds : List Char) (point : Int) :
    ∃ j : Nat, (ofPositional negative ds point).decimal
      = ⟨negative, digitsValue ds * 10 ^ j, point - ds.length - j⟩ := by
  by_cases hpoint : point ≤ 0
  · refine ⟨0, ?_⟩
    have hvalue := digitsValue_zeros_append (1 + (-point).toNat) ds
    rw [← List.replicate_append_replicate, List.append_assoc] at hvalue
    simp only [ofPositional, if_pos hpoint, decimal, fractionDigits, Option.getD_some,
      Option.elim_none, List.length_append, List.length_replicate, Nat.pow_zero, Nat.mul_one]
    congr 1
    omega
  · by_cases hdrop : ds.drop point.toNat = []
    · have hle : ds.length ≤ point.toNat := List.drop_eq_nil_iff.1 hdrop
      refine ⟨point.toNat - ds.length + 1, ?_⟩
      have hvalue := digitsValue_append_zeros ds (point.toNat - ds.length + 1)
      rw [← List.replicate_append_replicate, ← List.append_assoc] at hvalue
      simp only [ofPositional, if_neg hpoint, decimal, fractionDigits, Option.getD_some,
        Option.elim_none, if_pos hdrop, List.take_of_length_le hle, List.length_singleton]
      congr 1
      omega
    · have hlt : point.toNat < ds.length := by
        rw [List.drop_eq_nil_iff] at hdrop
        omega
      refine ⟨0, ?_⟩
      simp only [ofPositional, if_neg hpoint, decimal, fractionDigits, Option.getD_some,
        Option.elim_none, if_neg hdrop, Nat.sub_eq_zero_of_le (Nat.le_of_lt hlt),
        List.replicate_zero, List.append_nil, List.take_append_drop, List.length_drop,
        Nat.pow_zero, Nat.mul_one]
      congr 1
      omega

theorem decimal_ofScientific (negative : Bool) (d : Char) (ds : List Char) (exponent : Int) :
    (ofScientific negative d ds exponent).decimal
      = ⟨negative, digitsValue (d :: ds), exponent - ds.length⟩ := by
  have hfraction : (ofScientific negative d ds exponent).fractionDigits = ds := by
    by_cases hnil : ds = [] <;> simp [ofScientific, fractionDigits, hnil]
  have hexponent : Number.signed (decide (exponent < 0)) exponent.natAbs = exponent := by
    rw [Number.signed]
    split
    · rename_i hneg
      have hlt := of_decide_eq_true hneg
      omega
    · rename_i hneg
      have hnot := mt decide_eq_true hneg
      omega
  rw [decimal, hfraction]
  simp only [ofScientific, Option.elim_some, ExponentForm.value, Option.getD_some,
    digitsValue_exponentDigits, hexponent, List.singleton_append]

end NumeralForm

/-! ### Printing -/

namespace Number

open Numeral

/-- Digits without their zeros at the end are a decimal of the same value. -/
theorem ofDecimal_stripZeros (negative : Bool) {written ds : List Char} {k : Nat}
    (hwritten : ds ++ List.replicate k '0' = written) (exponent : Int) :
    ofDecimal ⟨negative, digitsValue ds, exponent + written.length - ds.length⟩
      = ofDecimal ⟨negative, digitsValue written, exponent⟩ := by
  rw [← ofDecimal_scaled negative (digitsValue ds) k, ← digitsValue_append_zeros, hwritten]
  congr 2
  rw [← hwritten, List.length_append, List.length_replicate]
  omega

/-- A magnitude prints as a numeral that reads as the magnitude, with either sign. -/
theorem exists_numeral_of_magnitude (negative : Bool) (m : Magnitude) :
    ∃ f : NumeralForm, f.Valid Char.isDigit ∧ f.chars = signText negative ++ magnitudeText m ∧
      ofDecimal f.decimal = .finite negative m := by
  by_cases hzero : m.units = 0
  · have hdigits : ∀ c ∈ ['0'], c.isDigit = true := List.forall_mem_singleton.2 rfl
    refine ⟨.ofPositional negative ['0'] 1, NumeralForm.valid_ofPositional negative 1 hdigits, ?_, ?_⟩
    · rw [NumeralForm.chars_ofPositional, magnitudeText, if_pos hzero]
      rfl
    · obtain ⟨j, hj⟩ := NumeralForm.decimal_ofPositional negative ['0'] 1
      rw [hj, show digitsValue ['0'] = 0 from rfl, Nat.zero_mul, ofDecimal_zero,
        Magnitude.eq_zero_of_units hzero]
  · have hreads : ofDecimal ⟨negative, (DecimalMagnitude.shortest m).digits,
        (DecimalMagnitude.shortest m).exponent⟩ = .finite negative m :=
      ofDecimal_signed (DecimalMagnitude.shortest_readsAs m) negative
    simp only [magnitudeText, if_neg hzero]
    generalize DecimalMagnitude.shortest m = d at hreads ⊢
    obtain ⟨k, hk⟩ := stripZeros_append_zeros (Nat.toDigits 10 d.digits)
    have hstrip := ofDecimal_stripZeros negative hk d.exponent
    rw [digitsValue_toDigits, hreads] at hstrip
    have hdigits : ∀ c ∈ stripZeros (Nat.toDigits 10 d.digits), c.isDigit = true := by
      intro c hc
      have hmem : c ∈ Nat.toDigits 10 d.digits := by
        rw [← hk]
        exact List.mem_append_left _ hc
      exact isDigit_of_mem_toDigits hmem
    generalize d.exponent + ((Nat.toDigits 10 d.digits).length : Int) = point at hstrip ⊢
    generalize stripZeros (Nat.toDigits 10 d.digits) = ds at hk hstrip hdigits ⊢
    split
    · refine ⟨.ofPositional negative ds point, NumeralForm.valid_ofPositional negative point hdigits,
        NumeralForm.chars_ofPositional negative ds point, ?_⟩
      obtain ⟨j, hj⟩ := NumeralForm.decimal_ofPositional negative ds point
      rw [hj, ofDecimal_scaled, hstrip]
    · cases ds with
      | nil =>
        -- No digits are left of a zero only, and the magnitude is positive.
        rw [show digitsValue [] = 0 from rfl, ofDecimal_zero] at hstrip
        exact absurd (congrArg Magnitude.units (Number.finite.inj hstrip).2).symm hzero
      | cons c cs =>
        refine ⟨.ofScientific negative c cs (point - 1),
          NumeralForm.valid_ofScientific negative (point - 1) hdigits,
          NumeralForm.chars_ofScientific negative c cs (point - 1), ?_⟩
        rw [NumeralForm.decimal_ofScientific, ← hstrip]
        congr 2
        rw [List.length_cons]
        omega

/-- An integer prints as its sign and digits. -/
theorem toList_toString_int (i : Int) :
    (toString i).toList = signText (decide (i < 0)) ++ Nat.toDigits 10 i.natAbs := by
  rw [Int.toString_eq_repr, Int.repr_eq_if]
  by_cases hneg : i < 0
  · rw [if_neg (Int.not_le.2 hneg), String.toList_append, Nat.toList_repr,
      show (-i).toNat = i.natAbs by omega]
    simp [signText, hneg]
  · rw [if_pos (Int.not_lt.1 hneg), Nat.toList_repr, show i.toNat = i.natAbs by omega]
    simp [signText, hneg]

/-- A finite number prints as a numeral that reads as the number; of a zero the sign may be lost. -/
theorem exists_numeral_of_plainText {x : Number} (hx : x.isFinite = true) :
    ∃ f : NumeralForm, f.Valid Char.isDigit ∧ f.chars = x.plainText.toList ∧
      (ofDecimal f.decimal).equal x = true := by
  cases x with
  | nan => cases hx
  | infinite negative => cases hx
  | finite negative m =>
    by_cases hwhole : (finite negative m).isInteger = true
    · simp only [plainText, truncated?, hwhole, if_true]
      have hunits : m.units = m.units / unitsPerOne * unitsPerOne := by
        have hmod : m.units % unitsPerOne = 0 := of_decide_eq_true hwhole
        exact (Nat.div_mul_cancel (Nat.dvd_of_mod_eq_zero hmod)).symm
      generalize m.units / unitsPerOne = n at hunits ⊢
      refine ⟨.ofWhole (decide (signed negative n < 0)) n, NumeralForm.valid_ofWhole _ _, ?_, ?_⟩
      · have hn : (signed negative n).natAbs = n := by cases negative <;> simp [signed]
        rw [NumeralForm.chars_ofWhole, toList_toString_int, hn]
      · rw [NumeralForm.decimal_ofWhole, ofDecimal_of_whole hunits]
        rcases Nat.eq_zero_or_pos n with rfl | hpos
        · -- A negative zero prints without its sign, which equality does not see.
          rw [Nat.zero_mul] at hunits
          cases negative <;> simp [equal, position, signed, hunits]
        · have hsign : decide (signed negative n < 0) = negative := by
            cases negative <;> simp [signed, hpos]
          rw [hsign]
          exact equal_refl (by simp)
    · simp only [plainText, truncated?, hwhole]
      obtain ⟨f, hf, hchars, hvalue⟩ := exists_numeral_of_magnitude negative m
      refine ⟨f, hf, ?_, ?_⟩
      · rw [hchars]
        simp [text]
      · rw [hvalue]
        exact equal_refl (by simp)

end Number

end RowAlert
