import RowAlert.Condition.Token
import RowAlert.Proofs.Number.Numeral
/-!
# RowAlert.Proofs.Condition.Numerals

The **numerals in a condition**.

`Lexeme.numberWidth` measures the numeral at the front of a text. It measures what a `NumeralForm`
writes: whatever it measures is the text of one (`exists_numeral_of_numberWidth`), and of the text
of one it takes all, if nothing behind could go on with it (`numberWidth_chars`). A number lexeme
therefore always reads as a number.
-/

namespace RowAlert

namespace Text

/-- Every text is some characters of a class and a rest that begins with none. -/
theorem exists_run (p : Char → Bool) (cs : List Char) :
    ∃ ds rest, cs = ds ++ rest ∧ (∀ c ∈ ds, p c = true) ∧ StopsAt p rest := by
  refine ⟨cs.takeWhile p, cs.dropWhile p, List.takeWhile_append_dropWhile.symm, ?_, ?_⟩
  · exact fun c hc => List.all_eq_true.1 List.all_takeWhile c hc
  · intro c hc
    have hnot := List.head?_dropWhile_not p cs
    rw [hc] at hnot
    exact hnot

end Text

namespace Lexeme

open NumeralForm

/-! ### Digits, points and exponents -/

theorem digitsWidth_run {ds rest : List Char} (hds : ∀ c ∈ ds, Text.isDigit c = true)
    (hrest : Text.StopsAt Text.isDigit rest) : digitsWidth (ds ++ rest) = ds.length := by
  rw [digitsWidth, Text.takeWhile_run hds hrest]

/-- Without a point, a numeral is as wide as its digits. -/
theorem unsignedWidth_whole {whole rest : List Char} (hwhole : ∀ c ∈ whole, Text.isDigit c = true)
    (hrest : Text.StopsAt Text.isDigit rest) (hpoint : rest.head? ≠ some '.') :
    unsignedWidth (whole ++ rest) = whole.length := by
  simp only [unsignedWidth, digitsWidth_run hwhole hrest, List.drop_left]
  split
  · exact absurd rfl hpoint
  · rfl

/-- With a point, digits on one side of it are enough. -/
theorem unsignedWidth_fraction {whole fraction rest : List Char}
    (hwhole : ∀ c ∈ whole, Text.isDigit c = true)
    (hfraction : ∀ c ∈ fraction, Text.isDigit c = true) (hrest : Text.StopsAt Text.isDigit rest) :
    unsignedWidth (whole ++ '.' :: (fraction ++ rest))
      = if whole = [] ∧ fraction = [] then 0 else whole.length + 1 + fraction.length := by
  have hpoint : Text.StopsAt Text.isDigit ('.' :: (fraction ++ rest)) :=
    Text.stopsAt_cons (by decide) _
  simp only [unsignedWidth, digitsWidth_run hwhole hpoint, List.drop_left,
    digitsWidth_run hfraction hrest, Bool.and_eq_true, decide_eq_true_eq, List.length_eq_zero_iff]

/-- The digits of a numeral, its point among them, are measured in full. -/
theorem unsignedWidth_digits {f : NumeralForm} (h : f.Valid Text.isDigit) {rest : List Char}
    (hrest : Text.StopsAt Text.isDigit rest) (hpoint : f.fraction = none → rest.head? ≠ some '.') :
    unsignedWidth (f.whole ++ (fractionChars f.fraction ++ rest))
      = (f.whole ++ fractionChars f.fraction).length := by
  have hfraction := h.fraction
  have hnonempty := h.nonempty
  unfold fractionDigits at hfraction hnonempty
  cases hf : f.fraction with
  | none =>
    rw [fractionChars, List.append_nil, List.nil_append,
      unsignedWidth_whole h.whole hrest (hpoint hf)]
  | some ds =>
    rw [hf, Option.getD_some] at hfraction hnonempty
    have hnot : ¬(f.whole = [] ∧ ds = []) := by
      rw [Decidable.not_and_iff_not_or_not]
      exact hnonempty
    rw [fractionChars, List.cons_append, unsignedWidth_fraction h.whole hfraction hrest,
      if_neg hnot, List.length_append, List.length_cons]
    omega

/-- Where a numeral is measured, its digits and its point stand. -/
theorem exists_digits_of_unsignedWidth {cs : List Char} (h : unsignedWidth cs ≠ 0) :
    ∃ whole fraction rest, cs = whole ++ (fractionChars fraction ++ rest) ∧
      (∀ c ∈ whole, Text.isDigit c = true) ∧ (∀ c ∈ fraction.getD [], Text.isDigit c = true) ∧
      (whole ≠ [] ∨ fraction.getD [] ≠ []) ∧
      unsignedWidth cs = (whole ++ fractionChars fraction).length := by
  obtain ⟨whole, behind, rfl, hwhole, hbehind⟩ := Text.exists_run Text.isDigit cs
  by_cases hpoint : behind.head? = some '.'
  · obtain ⟨tail, rfl⟩ : ∃ tail, behind = '.' :: tail := List.head?_eq_some_iff.1 hpoint
    obtain ⟨fraction, rest, rfl, hfraction, hrest⟩ := Text.exists_run Text.isDigit tail
    have hwidth := unsignedWidth_fraction hwhole hfraction hrest
    have hnonempty : ¬(whole = [] ∧ fraction = []) := by
      intro hnil
      rw [hwidth, if_pos hnil] at h
      exact h rfl
    rw [if_neg hnonempty] at hwidth
    refine ⟨whole, some fraction, rest, rfl, hwhole, hfraction, ?_, ?_⟩
    · rw [← Decidable.not_and_iff_not_or_not]
      exact hnonempty
    · rw [hwidth, fractionChars, List.length_append, List.length_cons]
      omega
  · have hwidth := unsignedWidth_whole hwhole hbehind hpoint
    refine ⟨whole, none, behind, rfl, hwhole, fun _ hc => absurd hc List.not_mem_nil, .inl ?_, ?_⟩
    · rintro rfl
      exact h hwidth
    · rw [hwidth, fractionChars, List.append_nil]

/-- Neither sign stands at the front. -/
def Unsigned (cs : List Char) : Prop := cs.head? ≠ some '+' ∧ cs.head? ≠ some '-'

/-- An exponent is measured if it has a digit. -/
theorem exponentWidth_mark {ds rest : List Char} (capital : Bool) (sign : Option Bool)
    (hds : ∀ c ∈ ds, Text.isDigit c = true) (hrest : Text.StopsAt Text.isDigit rest)
    (hsign : sign = none → Unsigned (ds ++ rest)) :
    exponentWidth (ExponentForm.markChar capital :: (ExponentForm.signChars sign ++ (ds ++ rest)))
      = if ds = [] then 0 else 1 + (ExponentForm.signChars sign).length + ds.length := by
  have hmark : (ExponentForm.markChar capital = 'e' || ExponentForm.markChar capital = 'E') = true := by
    cases capital <;> rfl
  have hwidth := digitsWidth_run hds hrest
  rcases sign with _ | _ | _
  · obtain ⟨hplus, hminus⟩ := hsign rfl
    simp only [ExponentForm.signChars, List.nil_append, exponentWidth, hmark, if_true,
      List.length_nil, Nat.add_zero, ← List.length_eq_zero_iff, ← hwidth]
    generalize ds ++ rest = cs at hplus hminus
    split
    · exact absurd rfl hplus
    · exact absurd rfl hminus
    · rfl
  · simp only [ExponentForm.signChars, List.cons_append, List.nil_append, exponentWidth, hmark,
      if_true, List.drop_succ_cons, List.drop_zero, hwidth, List.length_eq_zero_iff,
      List.length_singleton]
  · simp only [ExponentForm.signChars, List.cons_append, List.nil_append, exponentWidth, hmark,
      if_true, List.drop_succ_cons, List.drop_zero, hwidth, List.length_eq_zero_iff,
      List.length_singleton]

theorem unsigned_of_digit {ds : List Char} (hds : ∀ c ∈ ds, Text.isDigit c = true) (hne : ds ≠ [])
    (rest : List Char) : Unsigned (ds ++ rest) := by
  obtain ⟨d, ds, rfl⟩ := List.exists_cons_of_ne_nil hne
  have hd := hds d List.mem_cons_self
  constructor
  · rintro ⟨⟩
    exact absurd hd (by decide)
  · rintro ⟨⟩
    exact absurd hd (by decide)

theorem exponentWidth_chars {e : ExponentForm} (h : e.Valid Text.isDigit) {rest : List Char}
    (hrest : Text.StopsAt Text.isDigit rest) :
    exponentWidth (e.chars ++ rest) = e.chars.length := by
  have hwidth := exponentWidth_mark e.capital e.sign h.digits hrest
    fun _ => unsigned_of_digit h.digits h.nonempty rest
  rw [if_neg h.nonempty] at hwidth
  rw [ExponentForm.chars, List.cons_append, List.append_assoc, hwidth, List.length_cons,
    List.length_append]
  omega

/-- What is measured of an exponent is the text of one. -/
theorem exists_exponent (cs : List Char) :
    ∃ (exponent : Option ExponentForm) (rest : List Char), cs = exponentChars exponent ++ rest ∧
      (∀ e, exponent = some e → e.Valid Text.isDigit) ∧
      exponentWidth cs = (exponentChars exponent).length := by
  by_cases hnone : exponentWidth cs = 0
  · exact ⟨none, cs, rfl, fun _ he => (nomatch he), hnone⟩
  · obtain ⟨capital, tail, rfl⟩ : ∃ capital tail, cs = ExponentForm.markChar capital :: tail := by
      cases cs with
      | nil => exact absurd rfl hnone
      | cons c tail =>
        by_cases hlower : c = 'e'
        · exact ⟨false, tail, by rw [hlower]; rfl⟩
        · by_cases hupper : c = 'E'
          · exact ⟨true, tail, by rw [hupper]; rfl⟩
          · exact absurd (by simp [exponentWidth, hlower, hupper]) hnone
    obtain ⟨sign, behind, rfl, hsign⟩ : ∃ sign behind,
        tail = ExponentForm.signChars sign ++ behind ∧ (sign = none → Unsigned behind) := by
      by_cases hplus : tail.head? = some '+'
      · obtain ⟨behind, rfl⟩ := List.head?_eq_some_iff.1 hplus
        exact ⟨some false, behind, rfl, fun h => (nomatch h)⟩
      · by_cases hminus : tail.head? = some '-'
        · obtain ⟨behind, rfl⟩ := List.head?_eq_some_iff.1 hminus
          exact ⟨some true, behind, rfl, fun h => (nomatch h)⟩
        · exact ⟨none, tail, rfl, fun _ => ⟨hplus, hminus⟩⟩
    obtain ⟨digits, rest, rfl, hdigits, hrest⟩ := Text.exists_run Text.isDigit behind
    have hwidth := exponentWidth_mark capital sign hdigits hrest hsign
    have hne : digits ≠ [] := by
      intro hnil
      rw [if_pos hnil] at hwidth
      exact hnone hwidth
    rw [if_neg hne] at hwidth
    refine ⟨some ⟨capital, sign, digits⟩, rest, ?_, ?_, ?_⟩
    · simp [exponentChars, ExponentForm.chars]
    · rintro e ⟨⟩
      exact ⟨hne, hdigits⟩
    · rw [hwidth, exponentChars, ExponentForm.chars, List.length_cons, List.length_append,
        Nat.add_assoc, Nat.add_comm 1]

/-! ### Numerals -/

/-- The sign of a numeral is measured with it. -/
theorem numberWidth_signed (negative : Bool) {cs : List Char}
    (hsign : negative = false → cs.head? ≠ some '-') :
    numberWidth (Number.signText negative ++ cs)
      = if unsignedWidth cs = 0 then 0
        else (Number.signText negative).length + unsignedWidth cs
          + exponentWidth (cs.drop (unsignedWidth cs)) := by
  cases negative with
  | false =>
    simp only [Number.signText, numberWidth, List.nil_append, if_neg (hsign rfl), List.drop_zero,
      Nat.zero_add, List.length_nil, Bool.false_eq_true, if_false]
  | true =>
    simp only [Number.signText, numberWidth, if_true, List.cons_append, List.nil_append,
      List.head?_cons, List.drop_succ_cons, List.drop_zero, List.length_singleton,
      Nat.add_comm 1 (unsignedWidth cs)]

/-- Whatever is measured of a numeral is the text of one. -/
theorem exists_numeral_of_numberWidth {cs : List Char} (h : numberWidth cs ≠ 0) :
    ∃ f : NumeralForm, f.Valid Text.isDigit ∧ cs.take (numberWidth cs) = f.chars := by
  obtain ⟨negative, us, rfl, hsign⟩ : ∃ negative us,
      cs = Number.signText negative ++ us ∧ (negative = false → us.head? ≠ some '-') := by
    by_cases hminus : cs.head? = some '-'
    · obtain ⟨us, rfl⟩ := List.head?_eq_some_iff.1 hminus
      exact ⟨true, us, rfl, fun h => (nomatch h)⟩
    · exact ⟨false, cs, rfl, fun _ => hminus⟩
  have hwidth := numberWidth_signed negative hsign
  have hunsigned : unsignedWidth us ≠ 0 := by
    intro hzero
    rw [if_pos hzero] at hwidth
    exact h hwidth
  rw [if_neg hunsigned] at hwidth
  obtain ⟨whole, fraction, behind, rfl, hwhole, hfraction, hnonempty, hdigits⟩ :=
    exists_digits_of_unsignedWidth hunsigned
  obtain ⟨exponent, rest, rfl, hexponent, hexp⟩ := exists_exponent behind
  refine ⟨⟨negative, whole, fraction, exponent⟩, ⟨hwhole, hfraction, hnonempty, hexponent⟩, ?_⟩
  rw [hdigits, ← List.append_assoc whole, List.drop_left, hexp, ← List.length_append,
    ← List.length_append] at hwidth
  rw [← List.append_assoc whole, hwidth]
  simp only [chars, unsignedChars, ← List.append_assoc, List.take_left]

/-- Characters with which a numeral could go on. -/
def continuesNumeral (c : Char) : Bool := Text.isDigit c || c = '.' || c = 'e' || c = 'E'

theorem exponentWidth_of_stopsAt {cs : List Char} (h : Text.StopsAt continuesNumeral cs) :
    exponentWidth cs = 0 := by
  cases cs with
  | nil => rfl
  | cons c cs =>
    have hnot := h c rfl
    simp only [continuesNumeral, Bool.or_eq_false_iff, decide_eq_false_iff_not] at hnot
    simp [exponentWidth, hnot]

/-- A numeral has digits. -/
theorem length_digits_pos {f : NumeralForm} (h : f.Valid Text.isDigit) :
    0 < (f.whole ++ fractionChars f.fraction).length := by
  rw [List.length_pos_iff]
  intro hnil
  obtain ⟨hwhole, hfraction⟩ := List.append_eq_nil_iff.1 hnil
  rcases h.nonempty with hne | hne
  · exact hne hwhole
  · cases hf : f.fraction with
    | none => exact hne (by rw [fractionDigits, hf]; rfl)
    | some ds => rw [hf] at hfraction; cases hfraction

/-- Behind its sign a numeral does not begin with another one. -/
theorem unsignedChars_append_ne_minus {f : NumeralForm} (h : f.Valid Text.isDigit)
    (rest : List Char) : (f.unsignedChars ++ rest).head? ≠ some '-' := by
  obtain ⟨c, cs, hcs, hc⟩ := h.exists_unsignedChars
  rw [hcs]
  rintro ⟨⟩
  rcases hc with hc | hc
  · exact absurd hc (by decide)
  · cases hc

/-- The text of a numeral is measured in full, unless what follows could go on with it. -/
theorem numberWidth_chars {f : NumeralForm} (h : f.Valid Text.isDigit) {rest : List Char}
    (hrest : Text.StopsAt continuesNumeral rest) :
    numberWidth (f.chars ++ rest) = f.chars.length := by
  have hstops : Text.StopsAt Text.isDigit rest := by
    intro c hc
    have hnot := hrest c hc
    simp only [continuesNumeral, Bool.or_eq_false_iff] at hnot
    exact hnot.1.1.1
  have hbehind : Text.StopsAt Text.isDigit (exponentChars f.exponent ++ rest) := by
    cases f.exponent with
    | none => exact hstops
    | some e => exact Text.stopsAt_cons (by cases e.capital <;> decide) _
  have hpoint : (exponentChars f.exponent ++ rest).head? ≠ some '.' := by
    cases f.exponent with
    | none =>
      intro hhead
      exact absurd (hrest '.' hhead) (by decide)
    | some e =>
      intro hhead
      exact absurd (Option.some.inj hhead) (by cases e.capital <;> decide)
  have hexponent : exponentWidth (exponentChars f.exponent ++ rest)
      = (exponentChars f.exponent).length := by
    cases he : f.exponent with
    | none => exact exponentWidth_of_stopsAt hrest
    | some e => exact exponentWidth_chars (h.exponent e he) hstops
  have hdigits := unsignedWidth_digits h hbehind fun _ => hpoint
  have hlength := Nat.ne_of_gt (length_digits_pos h)
  have hsign := unsignedChars_append_ne_minus h rest
  simp only [unsignedChars, List.append_assoc] at hsign
  have hwidth := numberWidth_signed f.negative fun _ => hsign
  rw [hdigits, if_neg hlength, ← List.append_assoc f.whole, List.drop_left, hexponent,
    ← List.length_append, ← List.length_append] at hwidth
  simpa only [chars, unsignedChars, List.append_assoc] using hwidth

end Lexeme

end RowAlert
