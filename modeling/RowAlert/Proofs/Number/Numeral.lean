import RowAlert.Number.Shortest
/-!
# RowAlert.Proofs.Number.Numeral

The **parts of a numeral** as conditions write it: a sign, digits on at least one side of a point,
and perhaps an exponent (`NumeralForm`).

Scanners, readers and printers meet in this type. A scanner finds a form at the front of a text, a
printer writes one, and the reader makes of every form the number nearest to its decimal
(`ofChars?_chars`), so a form is never refused.
-/

namespace RowAlert

namespace Text

/-! ### Runs of characters of one class -/

/-- The front of a text ends where a class of characters ends. -/
def StopsAt (p : Char → Bool) (cs : List Char) : Prop := ∀ c, cs.head? = some c → p c = false

theorem stopsAt_nil (p : Char → Bool) : StopsAt p [] := fun _ h => by cases h

theorem stopsAt_cons {p : Char → Bool} {c : Char} (h : p c = false) (cs : List Char) :
    StopsAt p (c :: cs) := by
  intro d hd
  obtain rfl : c = d := by simpa using hd
  exact h

theorem takeWhile_of_stopsAt {p : Char → Bool} {cs : List Char} (h : StopsAt p cs) :
    cs.takeWhile p = [] := by
  cases cs with
  | nil => rfl
  | cons c cs => simp [h c rfl]

theorem dropWhile_of_stopsAt {p : Char → Bool} {cs : List Char} (h : StopsAt p cs) :
    cs.dropWhile p = cs := by
  cases cs with
  | nil => rfl
  | cons c cs => simp [h c rfl]

theorem takeWhile_run {p : Char → Bool} {cs ds : List Char} (hcs : ∀ c ∈ cs, p c = true)
    (hds : StopsAt p ds) : (cs ++ ds).takeWhile p = cs := by
  rw [List.takeWhile_append_of_pos hcs, takeWhile_of_stopsAt hds, List.append_nil]

theorem dropWhile_run {p : Char → Bool} {cs ds : List Char} (hcs : ∀ c ∈ cs, p c = true)
    (hds : StopsAt p ds) : (cs ++ ds).dropWhile p = ds := by
  rw [List.dropWhile_append_of_pos hcs, dropWhile_of_stopsAt hds]

/-! ### Digits -/

/-- Below the first digits of other scripts there are only the plain ones. -/
theorem find?_zeros_of_lt {n : Nat} (h : n < 128) :
    (zeros.find? fun z => z ≤ n && n < z + 10) = if 48 ≤ n ∧ n ≤ 57 then some 48 else none := by
  revert n
  decide

theorem isDigit_iff_range {c : Char} : c.isDigit = true ↔ 48 ≤ c.toNat ∧ c.toNat ≤ 57 :=
  Char.isDigit_iff_toNat

theorem digit?_of_ascii {c : Char} (h : c.toNat < 128) :
    digit? c = if c.isDigit then some (c.toNat - 48) else none := by
  rw [digit?, find?_zeros_of_lt h]
  by_cases hc : 48 ≤ c.toNat ∧ c.toNat ≤ 57
  · rw [if_pos hc, if_pos (isDigit_iff_range.2 hc), Option.map_some]
  · rw [if_neg hc, if_neg (mt isDigit_iff_range.1 hc), Option.map_none]

theorem toNat_lt_of_isDigit {c : Char} (h : c.isDigit = true) : c.toNat < 128 := by
  have hle := (isDigit_iff_range.1 h).2
  omega

/-- No printing character of ASCII is blank. -/
theorem not_isBlank_of_range {c : Char} (h : 33 ≤ c.toNat ∧ c.toNat ≤ 126) : isBlank c = false := by
  have hblank : ∀ n ≤ 126, 33 ≤ n → isBlank (Char.ofNat n) = false := by decide
  rw [← Char.ofNat_toNat c]
  exact hblank c.toNat h.2 h.1

/-- A plain digit is a digit. -/
theorem isDigit_of_plain {c : Char} (h : c.isDigit = true) : isDigit c = true := by
  rw [isDigit, digit?_of_ascii (toNat_lt_of_isDigit h), if_pos h]
  rfl

end Text

namespace Numeral

theorem plainDigit_of_isDigit {c : Char} (h : Text.isDigit c = true) :
    (plainDigit c).isDigit = true := by
  obtain ⟨d, hd⟩ := Option.isSome_iff_exists.1 h
  have hlt := Text.digit?_lt hd
  have hplain : ∀ n < 10, (Char.ofNat (48 + n)).isDigit = true := by decide
  simp only [plainDigit, hd]
  exact hplain d hlt

/-- A plain digit is its own plain form. -/
theorem plainDigit_of_plain {c : Char} (h : c.isDigit = true) : plainDigit c = c := by
  have hdigit : 48 ≤ c.toNat := (Text.isDigit_iff_range.1 h).1
  simp only [plainDigit, Text.digit?_of_ascii (Text.toNat_lt_of_isDigit h), if_pos h]
  rw [show 48 + (c.toNat - 48) = c.toNat by omega, Char.ofNat_toNat]

theorem map_plainDigit_of_plain {cs : List Char} (h : ∀ c ∈ cs, c.isDigit = true) :
    cs.map plainDigit = cs := by
  rw [List.map_congr_left fun c hc => plainDigit_of_plain (h c hc), List.map_id']

end Numeral

/-! ### The parts of a numeral -/

/-- An exponent: its mark, perhaps a sign, and digits. -/
structure ExponentForm where
  capital : Bool
  /-- The sign, if one is written; true stands for a minus. -/
  sign : Option Bool
  digits : List Char

/-- A numeral: perhaps a minus, digits, perhaps a point with digits, perhaps an exponent. -/
structure NumeralForm where
  negative : Bool
  whole : List Char
  /-- The digits behind the point, if there is a point. -/
  fraction : Option (List Char)
  exponent : Option ExponentForm

namespace ExponentForm

/-- The mark of an exponent. -/
def markChar (capital : Bool) : Char := if capital then 'E' else 'e'

/-- The sign of an exponent. -/
def signChars : Option Bool → List Char
  | none => []
  | some true => ['-']
  | some false => ['+']

theorem eq_of_mem_signChars {sign : Option Bool} {c : Char} (h : c ∈ signChars sign) :
    c = '-' ∨ c = '+' := by
  rcases sign with _ | _ | _
  · exact absurd h List.not_mem_nil
  · exact .inr (List.mem_singleton.1 h)
  · exact .inl (List.mem_singleton.1 h)

/-- The text of an exponent. -/
def chars (e : ExponentForm) : List Char := markChar e.capital :: (signChars e.sign ++ e.digits)

/-- An exponent has digits, all of a class. -/
structure Valid (digit : Char → Bool) (e : ExponentForm) : Prop where
  nonempty : e.digits ≠ []
  digits : ∀ c ∈ e.digits, digit c = true

/-- The same exponent in plain digits. -/
def plain (e : ExponentForm) : ExponentForm := { e with digits := e.digits.map Numeral.plainDigit }

/-- The value of an exponent that is written in plain digits. -/
def value (e : ExponentForm) : Int :=
  Number.signed (e.sign.getD false) (Numeral.digitsValue e.digits)

end ExponentForm

namespace NumeralForm

/-- The digits behind the point. -/
def fractionDigits (f : NumeralForm) : List Char := f.fraction.getD []

/-- The point and what follows it. -/
def fractionChars : Option (List Char) → List Char
  | none => []
  | some ds => '.' :: ds

/-- The text of an exponent that may be absent. -/
def exponentChars : Option ExponentForm → List Char
  | none => []
  | some e => e.chars

/-- The text of a numeral without its sign. -/
def unsignedChars (f : NumeralForm) : List Char :=
  f.whole ++ (fractionChars f.fraction ++ exponentChars f.exponent)

/-- The text of a numeral. -/
def chars (f : NumeralForm) : List Char := Number.signText f.negative ++ f.unsignedChars

/-- A numeral has a digit on at least one side of the point, and all its digits are of a class. -/
structure Valid (digit : Char → Bool) (f : NumeralForm) : Prop where
  whole : ∀ c ∈ f.whole, digit c = true
  fraction : ∀ c ∈ f.fractionDigits, digit c = true
  nonempty : f.whole ≠ [] ∨ f.fractionDigits ≠ []
  exponent : ∀ e, f.exponent = some e → e.Valid digit

/-- The same numeral in plain digits. -/
def plain (f : NumeralForm) : NumeralForm where
  negative := f.negative
  whole := f.whole.map Numeral.plainDigit
  fraction := f.fraction.map (List.map Numeral.plainDigit)
  exponent := f.exponent.map ExponentForm.plain

/-- The decimal that a numeral in plain digits writes. -/
def decimal (f : NumeralForm) : Numeral.Decimal where
  negative := f.negative
  digits := Numeral.digitsValue (f.whole ++ f.fractionDigits)
  exponent := (f.exponent.elim 0 ExponentForm.value) - f.fractionDigits.length

/-! ### Plain digits -/

theorem fractionDigits_plain (f : NumeralForm) :
    f.plain.fractionDigits = f.fractionDigits.map Numeral.plainDigit := by
  cases h : f.fraction <;> simp [fractionDigits, plain, h]

/-- The marks of a numeral are no digits, so making the digits plain leaves them. -/
theorem chars_plain (f : NumeralForm) : f.plain.chars = f.chars.map Numeral.plainDigit := by
  have hsign : ∀ b, (Number.signText b).map Numeral.plainDigit = Number.signText b := by decide
  have hpoint : Numeral.plainDigit '.' = '.' := by decide
  have hmark : ∀ b, Numeral.plainDigit (ExponentForm.markChar b) = ExponentForm.markChar b := by
    decide
  have hexpSign : ∀ s, (ExponentForm.signChars s).map Numeral.plainDigit
      = ExponentForm.signChars s := by
    rintro (_ | _ | _) <;> decide
  have hfraction : fractionChars f.plain.fraction
      = (fractionChars f.fraction).map Numeral.plainDigit := by
    cases h : f.fraction <;> simp [plain, fractionChars, h, hpoint]
  have hexponent : exponentChars f.plain.exponent
      = (exponentChars f.exponent).map Numeral.plainDigit := by
    cases h : f.exponent <;>
      simp [plain, exponentChars, h, ExponentForm.chars, ExponentForm.plain, hmark, hexpSign]
  simp only [chars, unsignedChars, List.map_append, hsign, hfraction, hexponent]
  rfl

theorem Valid.plain {f : NumeralForm} (h : f.Valid Text.isDigit) : f.plain.Valid Char.isDigit where
  whole := by
    intro c hc
    obtain ⟨d, hd, rfl⟩ := List.mem_map.1 hc
    exact Numeral.plainDigit_of_isDigit (h.whole d hd)
  fraction := by
    intro c hc
    rw [fractionDigits_plain] at hc
    obtain ⟨d, hd, rfl⟩ := List.mem_map.1 hc
    exact Numeral.plainDigit_of_isDigit (h.fraction d hd)
  nonempty := by
    rw [fractionDigits_plain]
    simpa [NumeralForm.plain] using h.nonempty
  exponent := by
    intro e he
    obtain ⟨e', he', rfl⟩ := Option.map_eq_some_iff.1 he
    refine ⟨by simpa [ExponentForm.plain] using (h.exponent e' he').nonempty, fun c hc => ?_⟩
    obtain ⟨d, hd, rfl⟩ := List.mem_map.1 hc
    exact Numeral.plainDigit_of_isDigit ((h.exponent e' he').digits d hd)

/-- Plain digits are digits. -/
theorem Valid.ofPlain {f : NumeralForm} (h : f.Valid Char.isDigit) : f.Valid Text.isDigit where
  whole := fun c hc => Text.isDigit_of_plain (h.whole c hc)
  fraction := fun c hc => Text.isDigit_of_plain (h.fraction c hc)
  nonempty := h.nonempty
  exponent := fun e he =>
    ⟨(h.exponent e he).nonempty, fun c hc => Text.isDigit_of_plain ((h.exponent e he).digits c hc)⟩

/-- A numeral in plain digits is its own plain form. -/
theorem Valid.plain_eq {f : NumeralForm} (h : f.Valid Char.isDigit) : f.plain = f := by
  obtain ⟨negative, whole, fraction, exponent⟩ := f
  have hwhole := Numeral.map_plainDigit_of_plain h.whole
  have hfraction : fraction.map (List.map Numeral.plainDigit) = fraction := by
    cases hf : fraction with
    | none => rfl
    | some ds =>
      have hds := Numeral.map_plainDigit_of_plain h.fraction
      rw [fractionDigits, hf, Option.getD_some] at hds
      rw [Option.map_some, hds]
  have hexponent : exponent.map ExponentForm.plain = exponent := by
    cases he : exponent with
    | none => rfl
    | some e =>
      rw [Option.map_some, ExponentForm.plain,
        Numeral.map_plainDigit_of_plain (h.exponent e he).digits]
  simp only [NumeralForm.plain, hwhole, hfraction, hexponent]

/-! ### Reading -/

/-- The characters that a numeral in plain digits is made of. -/
def isPlainChar (c : Char) : Bool :=
  c.isDigit || c = '-' || c = '+' || c = '.' || c = 'e' || c = 'E'

theorem isPlainChar_of_isDigit {c : Char} (h : c.isDigit = true) : isPlainChar c = true := by
  simp [isPlainChar, h]

theorem Valid.isPlainChar {f : NumeralForm} (h : f.Valid Char.isDigit) {c : Char}
    (hc : c ∈ f.chars) : isPlainChar c = true := by
  simp only [chars, unsignedChars, List.mem_append] at hc
  rcases hc with hc | hc | hc | hc
  · obtain ⟨-, rfl⟩ : f.negative = true ∧ c = '-' := by simpa [Number.signText] using hc
    decide
  · exact isPlainChar_of_isDigit (h.whole c hc)
  · cases hf : f.fraction with
    | none => simp [fractionChars, hf] at hc
    | some ds =>
      rcases List.mem_cons.1 (by simpa [fractionChars, hf] using hc) with rfl | hc
      · decide
      · exact isPlainChar_of_isDigit (h.fraction c (by simpa [fractionDigits, hf] using hc))
  · cases he : f.exponent with
    | none => simp [exponentChars, he] at hc
    | some e =>
      simp only [exponentChars, he, ExponentForm.chars, List.mem_cons, List.mem_append] at hc
      rcases hc with rfl | hc | hc
      · cases e.capital <;> decide
      · rcases ExponentForm.eq_of_mem_signChars hc with rfl | rfl <;> decide
      · exact isPlainChar_of_isDigit ((h.exponent e he).digits c hc)

theorem range_of_isPlainChar {c : Char} (h : isPlainChar c = true) :
    33 ≤ c.toNat ∧ c.toNat ≤ 126 := by
  simp only [NumeralForm.isPlainChar, Bool.or_eq_true, decide_eq_true_eq] at h
  rcases h with ((((h | rfl) | rfl) | rfl) | rfl) | rfl
  · have hle := Text.isDigit_iff_range.1 h
    omega
  all_goals decide

theorem not_isBlank_of_isPlainChar {c : Char} (h : isPlainChar c = true) :
    Numeral.isBlank c = false := by
  rw [Numeral.isBlank, Text.not_isBlank_of_range (range_of_isPlainChar h), Bool.false_and]

theorem trim_chars {f : NumeralForm} (h : f.Valid Char.isDigit) :
    Numeral.trim f.chars = f.chars := by
  have hstops : ∀ cs : List Char, (∀ c ∈ cs, c ∈ f.chars) → Text.StopsAt Numeral.isBlank cs := by
    intro cs hcs c hc
    exact not_isBlank_of_isPlainChar (h.isPlainChar (hcs c (List.mem_of_head? hc)))
  rw [Numeral.trim, Text.dropWhile_of_stopsAt (hstops _ fun _ hc => hc),
    Text.dropWhile_of_stopsAt (hstops _ fun _ hc => List.mem_reverse.1 hc), List.reverse_reverse]

theorem dropUnderscores?_of_not_mem {cs : List Char} (h : '_' ∉ cs) (before : Bool) :
    Numeral.dropUnderscores? before cs = some cs := by
  induction cs generalizing before with
  | nil => rfl
  | cons c cs ih =>
    obtain ⟨hc, hcs⟩ := not_or.1 (mt List.mem_cons.2 h)
    unfold Numeral.dropUnderscores?
    split
    · rename_i heq
      cases heq
    · rename_i heq
      exact absurd (List.cons.inj heq).1.symm hc
    · rename_i heq
      cases heq
      rw [ih hcs, Option.map_some]

theorem underscore_not_mem {f : NumeralForm} (h : f.Valid Char.isDigit) : '_' ∉ f.chars := by
  intro hmem
  have hplain := h.isPlainChar hmem
  revert hplain
  decide

/-- Behind its sign a numeral begins with a digit or a point. -/
theorem Valid.exists_unsignedChars {digit : Char → Bool} {f : NumeralForm} (h : f.Valid digit) :
    ∃ c cs, f.unsignedChars = c :: cs ∧ (digit c = true ∨ c = '.') := by
  cases hwhole : f.whole with
  | cons d ds =>
    have hd : d ∈ f.whole := by
      rw [hwhole]
      exact List.mem_cons_self
    refine ⟨d, ds ++ (fractionChars f.fraction ++ exponentChars f.exponent), ?_,
      .inl (h.whole d hd)⟩
    rw [unsignedChars, hwhole, List.cons_append]
  | nil =>
    cases hf : f.fraction with
    | none => exact absurd h.nonempty (by simp [hwhole, fractionDigits, hf])
    | some ds =>
      refine ⟨'.', ds ++ exponentChars f.exponent, ?_, .inr rfl⟩
      rw [unsignedChars, hwhole, hf, fractionChars, List.nil_append, List.cons_append]

/-- The sign is taken off a numeral. -/
theorem splitSign_chars {f : NumeralForm} (h : f.Valid Char.isDigit) :
    Numeral.splitSign f.chars = (f.negative, f.unsignedChars) := by
  cases hneg : f.negative with
  | true => simp [chars, hneg, Number.signText, Numeral.splitSign]
  | false =>
    obtain ⟨c, cs, hcs, hc⟩ := h.exists_unsignedChars
    have hhead : c ≠ '-' ∧ c ≠ '+' := by
      rcases hc with hc | rfl
      · constructor <;> (rintro rfl; cases hc)
      · decide
    simp only [chars, hneg, Number.signText, Bool.false_eq_true, if_false, List.nil_append, hcs]
    unfold Numeral.splitSign
    split
    · exact absurd (List.cons.inj ‹_›).1 hhead.1
    · exact absurd (List.cons.inj ‹_›).1 hhead.2
    · rfl

theorem splitSign_exponent {e : ExponentForm} (h : e.Valid Char.isDigit) :
    Numeral.splitSign (ExponentForm.signChars e.sign ++ e.digits)
      = (e.sign.getD false, e.digits) := by
  rcases hs : e.sign with _ | _ | _
  · cases hds : e.digits with
    | nil => exact absurd hds h.nonempty
    | cons d ds =>
      have hd := h.digits d (by simp [hds])
      simp only [ExponentForm.signChars, List.nil_append]
      unfold Numeral.splitSign
      split
      · rename_i heq
        cases heq
        cases hd
      · rename_i heq
        cases heq
        cases hd
      · rfl
  · rfl
  · rfl

theorem exponentPart?_chars {f : NumeralForm} (h : f.Valid Char.isDigit) :
    Numeral.exponentPart? (exponentChars f.exponent)
      = some (f.exponent.elim 0 ExponentForm.value) := by
  cases he : f.exponent with
  | none => rfl
  | some e =>
    have hvalid := h.exponent e he
    have hmark : ExponentForm.markChar e.capital = 'e' ∨ ExponentForm.markChar e.capital = 'E' := by
      cases e.capital <;> decide
    have hdigits : (e.digits.isEmpty || !e.digits.all Char.isDigit) = false := by
      simpa [hvalid.nonempty] using hvalid.digits
    simp only [exponentChars, ExponentForm.chars, Numeral.exponentPart?, splitSign_exponent hvalid]
    simp [hmark, hdigits, ExponentForm.value]

/-- Digits end before an exponent. -/
theorem stopsAt_exponentChars (e : Option ExponentForm) :
    Text.StopsAt Char.isDigit (exponentChars e) := by
  cases e with
  | none => exact Text.stopsAt_nil _
  | some e => exact Text.stopsAt_cons (by cases e.capital <;> decide) _

theorem decimal?_chars {f : NumeralForm} (h : f.Valid Char.isDigit) :
    Numeral.decimal? f.negative f.unsignedChars = some f.decimal := by
  have hnonempty := h.nonempty
  have hexponent := exponentPart?_chars h
  have hstops := stopsAt_exponentChars f.exponent
  unfold unsignedChars
  cases hf : f.fraction with
  | none =>
    have hrest : exponentChars f.exponent = [] ∨ ∃ c cs, c ≠ '.' ∧
        exponentChars f.exponent = c :: cs := by
      cases he : f.exponent with
      | none => exact .inl rfl
      | some e => exact .inr ⟨_, _, by cases e.capital <;> decide, rfl⟩
    have hwhole : f.whole ≠ [] := by simpa [fractionDigits, hf] using hnonempty
    simp only [Numeral.decimal?, fractionChars, List.nil_append,
      Text.takeWhile_run h.whole hstops, Text.dropWhile_run h.whole hstops]
    rcases hrest with hnil | ⟨c, cs, hc, hcons⟩
    · rw [hnil] at hexponent ⊢
      simp [hwhole, hexponent, decimal, fractionDigits, hf]
    · rw [hcons] at hexponent ⊢
      split
      · rename_i hpoint
        exact absurd (List.cons.inj hpoint).1 hc
      · simp [hwhole, hexponent, decimal, fractionDigits, hf]
  | some ds =>
    have hds : ∀ c ∈ ds, c.isDigit = true := by simpa [fractionDigits, hf] using h.fraction
    have hpoint : Text.StopsAt Char.isDigit ('.' :: (ds ++ exponentChars f.exponent)) :=
      Text.stopsAt_cons (by decide) _
    have hsome : f.whole = [] → ds ≠ [] := by
      simpa [fractionDigits, hf, Decidable.or_iff_not_imp_left] using hnonempty
    simp only [Numeral.decimal?, fractionChars, List.cons_append,
      Text.takeWhile_run h.whole hpoint, Text.dropWhile_run h.whole hpoint,
      Text.takeWhile_run hds hstops, Text.dropWhile_run hds hstops, hexponent]
    simpa [decimal, fractionDigits, hf] using hsome

/-- **Every numeral is read**, as the number nearest to the decimal that it writes. -/
theorem ofChars?_chars {f : NumeralForm} (h : f.Valid Text.isDigit) :
    Number.ofChars? f.chars = some (Number.ofDecimal f.plain.decimal) := by
  have hplain := h.plain
  simp only [Number.ofChars?, ← chars_plain, trim_chars hplain,
    dropUnderscores?_of_not_mem (underscore_not_mem hplain), splitSign_chars hplain,
    decimal?_chars hplain]

end NumeralForm

end RowAlert
