import Mathlib.Data.List.Infix
import RowAlert.Json.Reader
import RowAlert.Proofs.Except
/-!
# RowAlert.Proofs.Json.Integers

**Integers that are too long to be read.**

The reader goes through a text from the front, so what is left at any point is an end of the text. An
integer that is refused for its length stands there in full: it is a run of digits of the text
(`read_integerTooLong`). No other text is refused like this.
-/

namespace RowAlert.Json

/-- So many digits stand in a row somewhere in the text. -/
def HasRun (cs : List Char) (digits : Nat) : Prop :=
  ∃ run, run <:+: cs ∧ run.length = digits ∧ ∀ c ∈ run, c.isDigit = true

/-- What is left is an end of the text, and an integer that is refused for its length stands in it. -/
def Within {α : Type} (cs : List Char) : Except ReadFault (α × Rest) → Prop
  | .ok (_, rest) => rest.text <:+ cs
  | .error (.integerTooLong digits) => Numeral.maxIntegerDigits < digits ∧ HasRun cs digits
  | .error (.malformed ..) => True

variable {α β : Type}

theorem Within.mono {cs ds : List Char} {x : Except ReadFault (α × Rest)} (h : Within cs x)
    (hsuffix : cs <:+ ds) : Within ds x := by
  match x, h with
  | .ok (_, rest), h => exact List.IsSuffix.trans h hsuffix
  | .error (.integerTooLong digits), ⟨hlong, run, hrun, hdigits⟩ =>
    exact ⟨hlong, run, hrun.trans hsuffix.isInfix, hdigits⟩
  | .error (.malformed ..), _ => trivial

theorem Within.bind {cs : List Char} {x : Except ReadFault (α × Rest)}
    {f : α × Rest → Except ReadFault (β × Rest)} (hx : Within cs x)
    (hf : ∀ a rest, rest.text <:+ cs → Within cs (f (a, rest))) : Within cs (x >>= f) := by
  match x, hx with
  | .ok (a, rest), h => exact hf a rest h
  | .error (.integerTooLong digits), h => exact h
  | .error (.malformed ..), _ => trivial

/-! ### Strings -/

theorem suffix_skipSpace (pos : Nat) (cs : List Char) : (skipSpace pos cs).text <:+ cs := by
  induction cs generalizing pos with
  | nil => exact List.suffix_refl _
  | cons c cs ih =>
    rw [skipSpace]
    split
    · exact (ih _).trans (List.suffix_cons c cs)
    · exact List.suffix_refl _

/-- What stands behind blanks stands in the text. -/
theorem suffix_of_skipSpace {pos next : Nat} {cs rest : List Char} (h : skipSpace pos cs = ⟨next, rest⟩) :
    rest <:+ cs := by
  have hsuffix := suffix_skipSpace pos cs
  rwa [h] at hsuffix

theorem Within.consRead {cs : List Char} {x : Except ReadFault (List Char × Rest)} (h : Within cs x)
    (c : Char) : Within cs (consRead c x) := by
  match x, h with
  | .ok (_, rest), h => exact h
  | .error (.integerTooLong digits), h => exact h
  | .error (.malformed ..), _ => trivial

/-- An escape is refused for its form only. -/
theorem malformed_of_readEscape {start pos : Nat} {cs : List Char} {fault : ReadFault}
    (h : readEscape start pos cs = .error fault) :
    ∃ complaint offset, fault = .malformed complaint offset := by
  rw [readEscape.eq_def] at h
  split at h
  · exact ⟨_, _, (Except.error.inj h).symm⟩
  · split at h
    · exact ⟨_, _, (Except.error.inj h).symm⟩
    · split at h
      · split at h
        · split at h
          · exact ⟨_, _, (Except.error.inj h).symm⟩
          · split at h <;> cases h
        · cases h
      · split at h <;> cases h
  · split at h
    · exact ⟨_, _, (Except.error.inj h).symm⟩
    · split at h
      · cases h
      · exact ⟨_, _, (Except.error.inj h).symm⟩

theorem within_readString (start skip pos : Nat) (cs : List Char) :
    Within cs (readString start skip pos cs) := by
  induction cs generalizing skip pos with
  | nil => cases skip <;> exact trivial
  | cons c cs ih =>
    have hrest : ∀ skip pos, Within (c :: cs) (readString start skip pos cs) :=
      fun skip pos => (ih skip pos).mono (List.suffix_cons c cs)
    cases skip with
    | succ skip => exact hrest skip (pos + 1)
    | zero =>
      rw [readString]
      split
      · exact List.suffix_cons c cs
      · split
        · split
          · rename_i hfault
            obtain ⟨complaint, offset, rfl⟩ := malformed_of_readEscape hfault
            exact trivial
          · exact (hrest _ _).consRead _
        · split
          · exact trivial
          · exact (hrest _ _).consRead _

/-! ### Numbers -/

theorem suffix_fractionPart (cs : List Char) : (fractionPart cs).2 <:+ cs := by
  unfold fractionPart
  split
  · dsimp only
    split
    · exact List.suffix_refl _
    · exact (List.dropWhile_suffix _).trans (List.suffix_cons _ _)
  · exact List.suffix_refl _

/-- The sign of an exponent, if it has one, is passed. -/
theorem suffix_exponentPart (cs : List Char) : (exponentPart cs).2 <:+ cs := by
  have hdigits : ∀ ds : List Char, ds.dropWhile Char.isDigit <:+ ds := fun _ => List.dropWhile_suffix _
  unfold exponentPart
  split
  · rename_i c cs
    split
    · split
      rename_i sign digits hsign
      have hrest : digits <:+ cs := by
        split at hsign
        · exact (Prod.mk.inj hsign).2 ▸ List.suffix_cons _ _
        · exact (Prod.mk.inj hsign).2 ▸ List.suffix_cons _ _
        · exact (Prod.mk.inj hsign).2 ▸ List.suffix_refl _
      dsimp only
      split
      · exact List.suffix_refl _
      · exact ((hdigits digits).trans hrest).trans (List.suffix_cons c cs)
    · exact List.suffix_refl _
  · exact List.suffix_refl _

/-- What is left behind a number. -/
theorem suffix_number (width : Nat) (cs : List Char) :
    (exponentPart (fractionPart (cs.drop width)).2).2 <:+ cs :=
  ((suffix_exponentPart _).trans (suffix_fractionPart _)).trans (List.drop_suffix width cs)

theorem within_readUnsigned (start : Nat) (negative : Bool) (pos : Nat) (cs : List Char) :
    Within cs (readUnsigned start negative pos cs) := by
  have hrun : HasRun cs (cs.takeWhile Char.isDigit).length :=
    ⟨_, (List.takeWhile_prefix _).isInfix, rfl, List.all_eq_true.1 List.all_takeWhile⟩
  unfold readUnsigned
  split
  · simp only [List.isEmpty_cons, Bool.false_eq_true, if_false, List.length_singleton]
    split
    · split
      · rename_i hlong
        exact absurd hlong (by decide)
      · exact suffix_number _ _
    · split
      · exact suffix_number _ _
      · exact trivial
  · dsimp only
    split
    · exact trivial
    · split
      · split
        · rename_i hlong
          exact ⟨hlong, hrun⟩
        · exact suffix_number _ _
      · split
        · exact suffix_number _ _
        · exact trivial

theorem within_readScalar (pos : Nat) (cs : List Char) : Within cs (readScalar pos cs) := by
  unfold readScalar
  split
  · exact List.drop_suffix _ _
  · split
    · exact (within_readUnsigned _ _ _ _).mono (List.suffix_cons _ _)
    · exact within_readUnsigned _ _ _ _

/-! ### Values -/

section

variable {budget : Nat}

theorem within_readValue (hitems : ∀ pos cs, Within cs (readItems budget pos cs))
    (hfields : ∀ pos cs, Within cs (readFields budget pos cs)) (pos : Nat) (cs : List Char) :
    Within cs (readValue (budget + 1) pos cs) := by
  cases cs with
  | nil =>
    unfold readValue
    exact trivial
  | cons c cs =>
    have hbehind : ∀ {pos next : Nat} {rest : List Char}, skipSpace pos cs = ⟨next, rest⟩ →
        rest <:+ c :: cs := fun h => (suffix_of_skipSpace h).trans (List.suffix_cons c cs)
    unfold readValue
    split
    · refine ((within_readString _ _ _ _).mono (List.suffix_cons c cs)).bind ?_
      intro s rest hrest
      exact hrest
    · split
      · split
        · rename_i hskip
          exact (List.suffix_cons _ _).trans (hbehind hskip)
        · rename_i hskip
          refine ((hitems _ _).mono (hbehind hskip)).bind ?_
          intro items rest hrest
          exact hrest
      · split
        · split
          · rename_i hskip
            exact (List.suffix_cons _ _).trans (hbehind hskip)
          · rename_i hskip
            refine ((hfields _ _).mono (hbehind hskip)).bind ?_
            intro fields rest hrest
            exact hrest
        · exact within_readScalar _ _

theorem within_readItems (hvalue : ∀ pos cs, Within cs (readValue budget pos cs))
    (hitems : ∀ pos cs, Within cs (readItems budget pos cs)) (pos : Nat) (cs : List Char) :
    Within cs (readItems (budget + 1) pos cs) := by
  unfold readItems
  refine (hvalue _ _).bind ?_
  intro item rest hrest
  dsimp only
  split
  · rename_i hskip
    exact ((List.suffix_cons _ _).trans (suffix_of_skipSpace hskip)).trans hrest
  · rename_i hskip
    have hbehind := ((List.suffix_cons _ _).trans (suffix_of_skipSpace hskip)).trans hrest
    refine ((hitems _ _).mono ((suffix_skipSpace _ _).trans hbehind)).bind ?_
    intro items rest hrest
    exact hrest
  · exact trivial

theorem within_readFields (hvalue : ∀ pos cs, Within cs (readValue budget pos cs))
    (hfields : ∀ pos cs, Within cs (readFields budget pos cs)) (pos : Nat) (cs : List Char) :
    Within cs (readFields (budget + 1) pos cs) := by
  rw [readFields.eq_def]
  split
  · exact trivial
  · rename_i cs hbudget
    obtain rfl := Nat.succ.inj hbudget
    refine ((within_readString _ _ _ _).mono (List.suffix_cons _ cs)).bind ?_
    intro name rest hrest
    dsimp only
    split
    · rename_i hcolon
      have hbehind := ((List.suffix_cons _ _).trans (suffix_of_skipSpace hcolon)).trans hrest
      refine ((hvalue _ _).mono ((suffix_skipSpace _ _).trans hbehind)).bind ?_
      intro value rest hrest
      dsimp only
      split
      · rename_i hskip
        exact ((List.suffix_cons _ _).trans (suffix_of_skipSpace hskip)).trans hrest
      · rename_i hskip
        have hnext := ((List.suffix_cons _ _).trans (suffix_of_skipSpace hskip)).trans hrest
        refine ((hfields _ _).mono ((suffix_skipSpace _ _).trans hnext)).bind ?_
        intro fields rest hrest
        exact hrest
      · exact trivial
    · exact trivial
  · exact trivial

end

/-- The readers of values, items and fields go through the text from the front. -/
theorem within_readers (budget : Nat) :
    (∀ pos cs, Within cs (readValue budget pos cs)) ∧ (∀ pos cs, Within cs (readItems budget pos cs)) ∧
      ∀ pos cs, Within cs (readFields budget pos cs) := by
  induction budget with
  | zero =>
    refine ⟨?_, ?_, ?_⟩
    · intro pos cs
      unfold readValue
      exact trivial
    · intro pos cs
      unfold readItems
      exact trivial
    · intro pos cs
      unfold readFields
      exact trivial
  | succ budget ih =>
    obtain ⟨hvalue, hitems, hfields⟩ := ih
    exact ⟨within_readValue hitems hfields, within_readItems hvalue hitems,
      within_readFields hvalue hfields⟩

/-- **An integer that is refused for its length stands in the text.** -/
theorem read_integerTooLong {cs : List Char} {digits : Nat}
    (h : read cs = .error (.integerTooLong digits)) :
    Numeral.maxIntegerDigits < digits ∧ HasRun cs digits := by
  unfold read at h
  split at h
  · cases h
  · have hvalue := (within_readers (2 * cs.length + 2)).1 (skipSpace 0 cs).offset (skipSpace 0 cs).text
    rcases error_of_bind_eq_error h with hread | ⟨⟨value, rest⟩, -, hrest⟩
    · rw [hread] at hvalue
      exact hvalue.mono (suffix_skipSpace 0 cs)
    · dsimp only at hrest
      split at hrest <;> cases hrest

end RowAlert.Json
