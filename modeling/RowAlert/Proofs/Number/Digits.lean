import RowAlert.Proofs.Number.Numeral
import RowAlert.Text.LetterCase
/-!
# RowAlert.Proofs.Number.Digits

The **digits of a numeral** as part of a text.

A digit of any script is no blank and has no letter case, so trimming a text and mapping it to lower
case leave its digits. Every numeral of a finite number has one (`Number.exists_digit_of_ofChars?`):
without a digit only the words for infinity and NaN are read. A numeral is therefore never taken for
a word, whatever the letter case.
-/

namespace RowAlert

namespace Text

/-- A digit is one of the ten characters from a zero on. -/
theorem exists_zero_of_isDigit {c : Char} (h : isDigit c = true) :
    ∃ z ∈ zeros, z ≤ c.toNat ∧ c.toNat < z + 10 := by
  obtain ⟨d, hd⟩ := Option.isSome_iff_exists.1 h
  obtain ⟨z, hfind, -⟩ := Option.map_eq_some_iff.1 hd
  have hrange := List.find?_some hfind
  simp only [Bool.and_eq_true, decide_eq_true_eq] at hrange
  exact ⟨z, List.mem_of_find?_eq_some hfind, hrange⟩

/-- What holds of ten characters from each zero on holds of every digit. -/
theorem forall_isDigit {p : Char → Bool}
    (h : ∀ z ∈ zeros, ∀ d < 10, p (Char.ofNat (z + d)) = true) {c : Char} (hc : isDigit c = true) :
    p c = true := by
  obtain ⟨z, hz, hle, hlt⟩ := exists_zero_of_isDigit hc
  have hcode := h z hz (c.toNat - z) (by omega)
  rwa [Nat.add_sub_cancel' hle, Char.ofNat_toNat] at hcode

theorem not_isBlank_of_isDigit {c : Char} (h : isDigit c = true) : isBlank c = false := by
  have hblank : ∀ z ∈ zeros, ∀ d < 10, (!isBlank (Char.ofNat (z + d))) = true := by
    decide +kernel
  simpa using forall_isDigit (p := fun c => !isBlank c) hblank h

/-! ### Letter case -/

/-- No run of letters reaches into the digits of a script. -/
theorem runs_apart_from_digits :
    LetterCase.lowerRuns.all (fun (first, last, _, _) =>
      zeros.all fun z => Nat.blt last z || Nat.ble (z + 10) first) = true := by
  decide +kernel

theorem specials_apart_from_digits :
    LetterCase.lowerSpecials.all (fun (code, _) =>
      zeros.all fun z => Nat.blt code z || Nat.ble (z + 10) code) = true := by
  decide +kernel

theorem inRuns?_lowerRuns_of_isDigit {c : Char} (h : isDigit c = true) :
    LetterCase.inRuns? LetterCase.lowerRuns c.toNat = none := by
  obtain ⟨z, hz, hle, hlt⟩ := exists_zero_of_isDigit h
  rw [LetterCase.inRuns?, Option.map_eq_none_iff, List.find?_eq_none]
  intro run hrun hin
  have hapart := List.all_eq_true.1 (List.all_eq_true.1 runs_apart_from_digits run hrun) z hz
  simp only [Bool.or_eq_true, Nat.blt_eq, Nat.ble_eq] at hapart
  simp only [Bool.and_eq_true, decide_eq_true_eq] at hin
  omega

theorem lookup_lowerSpecials_of_isDigit {c : Char} (h : isDigit c = true) :
    LetterCase.lowerSpecials.lookup c.toNat = none := by
  obtain ⟨z, hz, hle, hlt⟩ := exists_zero_of_isDigit h
  rw [List.lookup_eq_none_iff]
  intro p hp
  have hapart := List.all_eq_true.1 (List.all_eq_true.1 specials_apart_from_digits p hp) z hz
  simp only [Bool.or_eq_true, Nat.blt_eq, Nat.ble_eq] at hapart
  simp only [bne_iff_ne]
  omega

/-- A digit is its own lower case. -/
theorem lowerOf_of_isDigit {c : Char} (h : isDigit c = true) : LetterCase.lowerOf c = [c] := by
  rw [LetterCase.lowerOf]
  split
  · rename_i hascii
    have hlower : ∀ n < 128, (Char.ofNat n).isDigit = true → (Char.ofNat n).toLower = Char.ofNat n := by
      decide
    have hc := hlower c.toNat hascii
    rw [Char.ofNat_toNat] at hc
    rw [isDigit, digit?_of_ascii hascii] at h
    split at h
    · rw [hc ‹_›]
    · cases h
  · simp only [LetterCase.image, lookup_lowerSpecials_of_isDigit h, inRuns?_lowerRuns_of_isDigit h]

theorem mem_lowerFrom_of_isDigit {c : Char} (hc : isDigit c = true) {cs : List Char} (h : c ∈ cs)
    (before : List Char) : c ∈ LetterCase.lowerFrom before cs := by
  induction cs generalizing before with
  | nil => cases h
  | cons d cs ih =>
    rw [LetterCase.lowerFrom, List.mem_append]
    rcases List.mem_cons.1 h with rfl | hmem
    · have hsigma : c ≠ 'Σ' := by
        intro heq
        subst heq
        revert hc
        decide
      simp [hsigma, lowerOf_of_isDigit hc]
    · exact .inr (ih hmem (d :: before))

/-- The digits of a text stay when it is mapped to lower case. -/
theorem mem_lower_of_isDigit {c : Char} (hc : isDigit c = true) {s : String} (h : c ∈ s.toList) :
    c ∈ (lower s).toList := by
  rw [lower, String.toList_ofList]
  exact mem_lowerFrom_of_isDigit hc h []

/-! ### Trimming -/

/-- What is left of a text whose ends are dropped, in whatever sense of blank, was there before. -/
theorem mem_of_mem_dropWhile_ends {p : Char → Bool} {c : Char} {cs : List Char}
    (h : c ∈ ((cs.dropWhile p).reverse.dropWhile p).reverse) : c ∈ cs := by
  have hstart := (List.dropWhile_suffix p).mem (List.mem_reverse.1 h)
  exact (List.dropWhile_suffix p).mem (List.mem_reverse.1 hstart)

theorem mem_of_mem_trim {c : Char} {cs : List Char} (h : c ∈ trim cs) : c ∈ cs :=
  mem_of_mem_dropWhile_ends h

/-- The blanks around a text without blanks are what trimming takes off. -/
theorem trim_enclosed {before cs behind : List Char} (hbefore : allBlank before = true)
    (hbehind : allBlank behind = true) (hne : cs ≠ []) (hcs : ∀ c ∈ cs, isBlank c = false) :
    trim (before ++ (cs ++ behind)) = cs := by
  have hstops : ∀ ds : List Char, ds ≠ [] → (∀ c ∈ ds, isBlank c = false) →
      ∀ rest, StopsAt isBlank (ds ++ rest) := by
    intro ds hds hblank rest c hc
    obtain ⟨d, ds, rfl⟩ := List.exists_cons_of_ne_nil hds
    obtain rfl : d = c := Option.some.inj hc
    exact hblank d List.mem_cons_self
  have hfront : trimStart (before ++ (cs ++ behind)) = cs ++ behind :=
    dropWhile_run (List.all_eq_true.1 hbefore) (hstops cs hne hcs behind)
  have hback : (behind.reverse ++ cs.reverse).dropWhile isBlank = cs.reverse := by
    refine dropWhile_run (fun c hc => List.all_eq_true.1 hbehind c (List.mem_reverse.1 hc)) ?_
    have hreverse := hstops cs.reverse (mt List.reverse_eq_nil_iff.1 hne)
      (fun c hc => hcs c (List.mem_reverse.1 hc)) []
    rwa [List.append_nil] at hreverse
  rw [trim, hfront, trimEnd, trimStart, List.reverse_append, hback, List.reverse_reverse]

/-- A text without blanks is its own trimmed form. -/
theorem trim_of_not_blank {cs : List Char} (hne : cs ≠ []) (hcs : ∀ c ∈ cs, isBlank c = false) :
    trim cs = cs := by
  simpa using @trim_enclosed [] cs [] rfl rfl hne hcs

end Text

/-! ### The text of a numeral -/

namespace NumeralForm

/-- There is no blank in a numeral, in whatever script its digits are. -/
theorem Valid.not_isBlank {f : NumeralForm} (h : f.Valid Text.isDigit) {c : Char}
    (hc : c ∈ f.chars) : Text.isBlank c = false := by
  cases hdigit : Text.isDigit c with
  | true => exact Text.not_isBlank_of_isDigit hdigit
  | false =>
    have hplain : Numeral.plainDigit c ∈ f.plain.chars := by
      rw [chars_plain]
      exact List.mem_map_of_mem hc
    have hsame : Numeral.plainDigit c = c := by
      rw [Numeral.plainDigit, Option.not_isSome_iff_eq_none.1 (Bool.eq_false_iff.1 hdigit)]
    rw [hsame] at hplain
    exact Text.not_isBlank_of_range (range_of_isPlainChar (h.plain.isPlainChar hplain))

theorem Valid.exists_digit {digit : Char → Bool} {f : NumeralForm} (h : f.Valid digit) :
    ∃ c ∈ f.chars, digit c = true := by
  rcases h.nonempty with hwhole | hfraction
  · obtain ⟨c, hc⟩ := List.exists_mem_of_ne_nil _ hwhole
    exact ⟨c, by simp [chars, unsignedChars, hc], h.whole c hc⟩
  · obtain ⟨c, hc⟩ := List.exists_mem_of_ne_nil _ hfraction
    refine ⟨c, ?_, h.fraction c hc⟩
    cases hf : f.fraction with
    | none => simp [fractionDigits, hf] at hc
    | some ds =>
      have hmem : c ∈ ds := by simpa [fractionDigits, hf] using hc
      simp [chars, unsignedChars, fractionChars, hf, hmem]

end NumeralForm

/-! ### Numerals have digits -/

namespace Numeral

theorem isDigit_of_plainDigit {c : Char} (h : (plainDigit c).isDigit = true) :
    Text.isDigit c = true := by
  unfold plainDigit at h
  split at h
  · rename_i hd
    rw [Text.isDigit, hd, Option.isSome_some]
  · exact Text.isDigit_of_plain h

theorem mem_of_mem_dropUnderscores? {cs plain : List Char} {before : Bool} {c : Char}
    (h : dropUnderscores? before cs = some plain) (hc : c ∈ plain) : c ∈ cs := by
  induction cs generalizing before plain with
  | nil =>
    obtain rfl : [] = plain := Option.some.inj h
    exact hc
  | cons d cs ih =>
    unfold dropUnderscores? at h
    split at h
    · rename_i heq
      cases heq
    · rename_i heq
      obtain ⟨-, rfl⟩ := List.cons.inj heq
      split at h
      · split at h
        · exact List.mem_cons_of_mem d (ih h hc)
        · cases h
      · cases h
    · rename_i heq
      obtain ⟨rfl, rfl⟩ := List.cons.inj heq
      obtain ⟨rest, hrest, rfl⟩ := Option.map_eq_some_iff.1 h
      rcases List.mem_cons.1 hc with rfl | hmem
      · exact List.mem_cons_self
      · exact List.mem_cons_of_mem d (ih hrest hmem)

theorem mem_of_mem_splitSign {cs : List Char} {c : Char} (h : c ∈ (splitSign cs).2) : c ∈ cs := by
  unfold splitSign at h
  split at h
  · exact List.mem_cons_of_mem _ h
  · exact List.mem_cons_of_mem _ h
  · exact h

/-- A decimal has a digit on one side of its point. -/
theorem exists_digit_of_decimal? {negative : Bool} {cs : List Char} {d : Decimal}
    (h : decimal? negative cs = some d) : ∃ c ∈ cs, c.isDigit = true := by
  by_cases hexists : ∃ c ∈ cs, c.isDigit = true
  · exact hexists
  have hnone : ∀ c ∈ cs, c.isDigit = false := by
    intro c hc
    exact Bool.eq_false_iff.2 fun hdigit => hexists ⟨c, hc, hdigit⟩
  have hstops : Text.StopsAt Char.isDigit cs := fun c hc => hnone c (List.mem_of_head? hc)
  have hwhole : cs.takeWhile Char.isDigit = [] := Text.takeWhile_of_stopsAt hstops
  have hrest : cs.dropWhile Char.isDigit = cs := Text.dropWhile_of_stopsAt hstops
  simp only [decimal?, hwhole, hrest] at h
  split at h
  · rename_i ds
    have hfraction : ds.takeWhile Char.isDigit = [] :=
      Text.takeWhile_of_stopsAt fun c hc =>
        hnone c (List.mem_cons_of_mem _ (List.mem_of_head? hc))
    simp [hfraction] at h
  · simp at h

end Numeral

namespace Number

open Numeral

/-- The words that stand for numbers stand for no finite one. -/
theorem isFinite_of_ofWord? {negative : Bool} {cs : List Char} {x : Number}
    (h : ofWord? negative cs = some x) : x.isFinite = false := by
  simp only [ofWord?] at h
  split at h
  · obtain rfl := Option.some.inj h
    rfl
  · split at h
    · obtain rfl := Option.some.inj h
      rfl
    · cases h

/-- The numeral of a finite number has a digit. -/
theorem exists_digit_of_ofChars? {cs : List Char} {x : Number} (h : ofChars? cs = some x)
    (hx : x.isFinite = true) : ∃ c ∈ cs, Text.isDigit c = true := by
  unfold ofChars? at h
  split at h
  · cases h
  · rename_i plain hplain
    dsimp only at h
    split at h
    · rename_i d hd
      obtain ⟨c, hc, hdigit⟩ := exists_digit_of_decimal? hd
      have hmem := Text.mem_of_mem_dropWhile_ends
        (mem_of_mem_dropUnderscores? hplain (mem_of_mem_splitSign hc))
      obtain ⟨c', hc', rfl⟩ := List.mem_map.1 hmem
      exact ⟨c', hc', isDigit_of_plainDigit hdigit⟩
    · rw [isFinite_of_ofWord? h] at hx
      cases hx

end Number

end RowAlert
