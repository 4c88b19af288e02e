import RowAlert.Loading
import RowAlert.Proofs.Json.Integers
import RowAlert.Proofs.Utf8
/-!
# RowAlert.Proofs.LoadErrors

**What keeps a fault of loading from being reported.**

Rules and rows are loaded in the same stages, and most of what can go wrong is a load error, which a run
reports. Rows that are read with a separator fail in no other way, whatever the bytes of their file are.
Rules do: bytes that are no text, and integers that are too long to read, are faults that no run reports
(`load_reported_iff`).
-/

namespace RowAlert

open Text (normaliseLineEnds)
open Text.Utf8 (encode decode decode_eq_ok_iff)

/-- There is a result, or a fault that is a load error. -/
def Reported {ε α : Type} (unreported? : ε → Option Fault) : Except ε α → Prop
  | .ok _ => True
  | .error fault => unreported? fault = none

/-- A file can have the path: no null character is in its normal form. -/
def Path.Nameable (path : String) : Prop := (Path.normal path).toList.contains '\x00' = false

instance (path : String) : Decidable (Path.Nameable path) := inferInstanceAs (Decidable (_ = false))

/-- Rules can be read from the bytes, or a load error says why they cannot: the bytes are a text in UTF-8,
and no integer that is met in it is too long. -/
def RuleFile.Legible (bytes : List UInt8) : Prop :=
  ∃ text, bytes = encode text ∧
    ∀ digits, Json.read (normaliseLineEnds text) ≠ .error (.integerTooLong digits)

/-! ### Stages -/

section

variable {ε ε' α β : Type} {unreported? : ε → Option Fault}

/-- A stage that cannot fail changes nothing. -/
theorem reported_bind_pure {x : Except ε α} {f : α → β} :
    Reported unreported? (x >>= fun a => pure (f a)) ↔ Reported unreported? x := by
  cases x <;> exact Iff.rfl

theorem reported_mapError {x : Except ε' α} {f : ε' → ε} :
    Reported unreported? (x.mapError f) ↔ Reported (fun fault => unreported? (f fault)) x := by
  cases x <;> exact Iff.rfl

theorem reported_of_none {x : Except ε α} (h : ∀ fault, unreported? fault = none) :
    Reported unreported? x := by
  cases x with
  | error fault => exact h fault
  | ok a => trivial

end

/-- The text of a file that can have its path. -/
theorem Files.text_of_nameable {files : Files} {path : String} (h : Path.Nameable path) :
    files.text (Path.normal path) =
      match files (Path.normal path) with
      | .error fault => .error (.unreadable fault)
      | .ok bytes =>
        match decode bytes with
        | .error fault => .error (.undecodable fault)
        | .ok text => .ok (normaliseLineEnds text) := by
  have hnull : ¬((Path.normal path).toList.contains '\x00' = true) := by
    rw [h]
    exact Bool.false_ne_true
  unfold Files.text
  exact if_neg hnull

theorem Files.text_of_not_nameable {files : Files} {path : String} (h : ¬Path.Nameable path) :
    files.text (Path.normal path) = .error .unnameable := by
  have hnull : (Path.normal path).toList.contains '\x00' = true := Bool.not_eq_false _ ▸ h
  unfold Files.text
  exact if_pos hnull

/-! ### Digits and line ends -/

namespace Text

/-- Line ends are no digits, so digits at the front of the text that is read are those of the file. -/
theorem prefix_of_normaliseLineEnds {run cs : List Char} (hdigits : ∀ c ∈ run, c.isDigit = true)
    (h : run <+: normaliseLineEnds cs) : run <+: cs := by
  induction run generalizing cs with
  | nil => exact List.nil_prefix
  | cons d run ih =>
    obtain ⟨hd, hrest⟩ := List.forall_mem_cons.1 hdigits
    unfold normaliseLineEnds at h
    split at h
    · exact h
    · rw [(List.cons_prefix_cons.1 h).1] at hd
      cases hd
    · obtain ⟨rfl, hrun⟩ := List.cons_prefix_cons.1 h
      split at hd
      · cases hd
      · rename_i hreturn
        rw [if_neg hreturn]
        exact List.cons_prefix_cons.2 ⟨rfl, ih hrest hrun⟩

/-- An end of the text that is read is read of an end of the file. -/
theorem exists_suffix_of_normaliseLineEnds {tail cs : List Char} (h : tail <:+ normaliseLineEnds cs) :
    ∃ ds, ds <:+ cs ∧ tail = normaliseLineEnds ds := by
  induction cs using normaliseLineEnds.induct with
  | case1 => exact ⟨[], List.suffix_refl [], List.suffix_nil.1 h⟩
  | case2 cs ih =>
    rcases List.suffix_cons_iff.1 h with hall | hlater
    · exact ⟨_, List.suffix_refl _, hall⟩
    · obtain ⟨ds, hds, htail⟩ := ih hlater
      exact ⟨ds, (hds.trans (List.suffix_cons _ _)).trans (List.suffix_cons _ _), htail⟩
  | case3 c cs hsingle ih =>
    have hcons := normaliseLineEnds.eq_3 c cs hsingle
    rcases List.suffix_cons_iff.1 (hcons ▸ h) with hall | hlater
    · exact ⟨c :: cs, List.suffix_refl _, hall.trans hcons.symm⟩
    · obtain ⟨ds, hds, htail⟩ := ih hlater
      exact ⟨ds, hds.trans (List.suffix_cons c cs), htail⟩

theorem hasRun_of_normaliseLineEnds {cs : List Char} {digits : Nat}
    (h : Json.HasRun (normaliseLineEnds cs) digits) : Json.HasRun cs digits := by
  obtain ⟨run, hrun, hlength, hdigits⟩ := h
  obtain ⟨tail, hfront, htail⟩ := List.infix_iff_prefix_suffix.1 hrun
  obtain ⟨ds, hds, rfl⟩ := exists_suffix_of_normaliseLineEnds htail
  exact ⟨run, (prefix_of_normaliseLineEnds hdigits hfront).isInfix.trans hds.isInfix, hlength, hdigits⟩

end Text

/-! ### Rules -/

namespace RuleFile

/-- A text is refused in a way that is not reported only for an integer that is too long. -/
theorem reported_ofText_iff {path : String} {written : List Char} :
    Reported RuleLoadFault.unreported? (ofText path written) ↔
      ∀ digits, Json.read written ≠ .error (.integerTooLong digits) := by
  unfold ofText
  cases Json.read written with
  | ok value =>
    constructor
    · intro _ digits h
      cases h
    · intro _
      exact reported_mapError.2 (reported_of_none fun _ => rfl)
  | error fault =>
    cases fault with
    | malformed complaint offset => simp [Reported, RuleLoadFault.unreported?]
    | integerTooLong digits => simp [Reported, RuleLoadFault.unreported?]

/-- Bytes are the encoding of one text only. -/
theorem legible_encode_iff {text : List Char} : Legible (encode text) ↔
    ∀ digits, Json.read (normaliseLineEnds text) ≠ .error (.integerTooLong digits) := by
  constructor
  · rintro ⟨other, hother, hread⟩
    have hsame : (.ok other : Except Text.Utf8.Fault (List Char)) = .ok text :=
      (decode_eq_ok_iff.2 hother).symm.trans (decode_eq_ok_iff.2 rfl)
    rwa [← Except.ok.inj hsame]
  · intro hread
    exact ⟨text, rfl, hread⟩

theorem not_legible_of_error {bytes : List UInt8} {fault : Text.Utf8.Fault}
    (h : decode bytes = .error fault) : ¬Legible bytes := by
  rintro ⟨text, htext, -⟩
  rw [decode_eq_ok_iff.2 htext] at h
  cases h

/-- Loading rules is reading a text, and a notice. -/
theorem load_eq (files : Files) (path : String) :
    load files path =
      ((files.text (Path.normal path)).mapError (.text (Path.normal path)) >>=
          ofText (Path.normal path)) >>=
        fun file => pure (file, [loaded (Path.normal path) file]) := by
  rw [load, bind_assoc]

theorem reported_load_iff (files : Files) (path : String) :
    Reported RuleLoadFault.unreported? (load files path) ↔
      Path.Nameable path ∧ ∀ bytes, files (Path.normal path) = .ok bytes → Legible bytes := by
  rw [load_eq, reported_bind_pure]
  by_cases hpath : Path.Nameable path
  · rw [Files.text_of_nameable hpath]
    cases hfile : files (Path.normal path) with
    | error fault =>
      constructor
      · intro _
        exact ⟨hpath, fun bytes h => nomatch h⟩
      · intro _
        rfl
    | ok bytes =>
      simp only [hpath, true_and, Except.ok.injEq, forall_eq']
      cases hdecode : decode bytes with
      | ok text =>
        rw [decode_eq_ok_iff.1 hdecode, legible_encode_iff]
        exact reported_ofText_iff
      | error fault =>
        refine iff_of_false ?_ (not_legible_of_error hdecode)
        intro h
        cases h
  · rw [Files.text_of_not_nameable hpath]
    refine iff_of_false ?_ fun h => hpath h.1
    intro h
    cases h

/-- A text in which no integer can be too long. -/
theorem legible_of_runs {text : List Char}
    (h : ∀ digits, Json.HasRun text digits → digits ≤ Numeral.maxIntegerDigits) :
    Legible (encode text) := by
  refine ⟨text, rfl, ?_⟩
  intro digits hread
  obtain ⟨hlong, hrun⟩ := Json.read_integerTooLong hread
  exact absurd (h digits (Text.hasRun_of_normaliseLineEnds hrun)) (Nat.not_le.2 hlong)

end RuleFile

/-! ### Rows -/

namespace Table

/-- Loading rows is splitting a text, and a notice. -/
theorem load_eq (files : Files) (format : TableFormat) (path : String) :
    load files format path =
      ((files.text (Path.normal path)).mapError (.text (Path.normal path)) >>=
          fun written => (rows format (String.ofList written)).mapError .content) >>=
        fun found => pure (found, [loaded (Path.normal path) found]) := by
  rw [load, bind_assoc]

/-- With something to split lines at, only column names that collide are in the way of rows. -/
theorem collision_of_rows {hasHeader : Bool} {separator text : String} {fault : TableFault}
    (hseparator : separator ≠ "") (h : rows ⟨hasHeader, some separator⟩ text = .error fault) :
    ∃ c, fault = .collision c := by
  unfold rows at h
  dsimp only at h
  rw [if_neg hseparator] at h
  split at h
  · cases h
  · cases hrows : rowsOfLines hasHeader separator (dataLines text) with
    | ok found =>
      rw [hrows] at h
      cases h
    | error c =>
      rw [hrows] at h
      exact ⟨c, (Except.error.inj h).symm⟩

theorem reported_load_iff (files : Files) (path : String) (hasHeader : Bool) {separator : String}
    (hseparator : separator ≠ "") :
    Reported RowLoadFault.unreported? (load files ⟨hasHeader, some separator⟩ path) ↔
      Path.Nameable path := by
  have hcontent : ∀ text, Reported RowLoadFault.unreported?
      ((rows ⟨hasHeader, some separator⟩ text).mapError .content) := by
    intro text
    cases hrows : rows ⟨hasHeader, some separator⟩ text with
    | ok found => trivial
    | error fault =>
      obtain ⟨c, rfl⟩ := collision_of_rows hseparator hrows
      rfl
  rw [load_eq, reported_bind_pure]
  by_cases hpath : Path.Nameable path
  · rw [Files.text_of_nameable hpath]
    refine iff_of_true ?_ hpath
    cases files (Path.normal path) with
    | error fault => rfl
    | ok bytes =>
      dsimp only
      cases decode bytes with
      | error fault => rfl
      | ok text => exact hcontent _
  · rw [Files.text_of_not_nameable hpath]
    refine iff_of_false ?_ hpath
    intro h
    cases h

end Table

/-! ### Both -/

/-- **Rows that cannot be loaded are reported, and rules unless their file is no text or holds an integer
that is too long.** A load error is all that comes of a path at which there is no file, of bytes that are no
table, and of a text that is no rule file. Rules are lost for bytes that are no UTF-8 and for integers that
are too long to be read; a text whose runs of digits are not too long has no such integer. -/
theorem load_reported_iff (files : Files) (path : String) (hasHeader : Bool) {separator : String}
    (hseparator : separator ≠ "") :
    (Reported RuleLoadFault.unreported? (RuleFile.load files path) ↔
        Path.Nameable path ∧ ∀ bytes, files (Path.normal path) = .ok bytes → RuleFile.Legible bytes) ∧
      (Reported RowLoadFault.unreported? (Table.load files ⟨hasHeader, some separator⟩ path) ↔
        Path.Nameable path) ∧
      ∀ text, (∀ digits, Json.HasRun text digits → digits ≤ Numeral.maxIntegerDigits) →
        RuleFile.Legible (encode text) :=
  ⟨RuleFile.reported_load_iff files path, Table.reported_load_iff files path hasHeader hseparator,
    fun _ => RuleFile.legible_of_runs⟩

/-- An accent in Latin-1 is no UTF-8: rows of such a file are reported, rules are not. The brackets alone
are a text of which rules are reported. -/
theorem load_reported_iff_latin :
    ";" ≠ "" ∧
      ¬Reported RuleLoadFault.unreported? (RuleFile.load (fun _ => .ok [0x5B, 0xE9, 0x5D]) "menu.txt") ∧
      Reported RowLoadFault.unreported?
        (Table.load (fun _ => .ok [0x5B, 0xE9, 0x5D]) ⟨false, some ";"⟩ "menu.txt") ∧
      RuleFile.Legible (encode ['[', ']']) := by
  have hseparator : ";" ≠ "" := by decide
  obtain ⟨hrules, hrows, hruns⟩ :=
    load_reported_iff (fun _ => .ok [0x5B, 0xE9, 0x5D]) "menu.txt" false hseparator
  refine ⟨hseparator, ?_, hrows.2 (by decide), hruns _ ?_⟩
  · intro h
    exact RuleFile.not_legible_of_error rfl ((hrules.1 h).2 _ rfl)
  · rintro digits ⟨run, hrun, rfl, -⟩
    exact hrun.length_le.trans (by decide)

/-- A byte that starts no character keeps a rule file from being reported. -/
theorem not_reported_undecodable :
    ¬∀ (files : Files) (path : String), Path.Nameable path →
      Reported RuleLoadFault.unreported? (RuleFile.load files path) := by
  intro h
  have hreported := h (fun _ => .ok [0xFF]) "config.json" (by decide)
  exact RuleFile.not_legible_of_error rfl (((RuleFile.reported_load_iff _ _).1 hreported).2 _ rfl)

end RowAlert
