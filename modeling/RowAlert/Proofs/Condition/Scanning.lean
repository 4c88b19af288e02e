import RowAlert.Condition.Parser
import RowAlert.Proofs.Condition.Grammar
import RowAlert.Proofs.Condition.Numerals
/-!
# RowAlert.Proofs.Condition.Scanning

**What cutting a text into tokens gives.**

Every lexeme that is cut is a proper one: its numeral reads and its relation is one of the six
(`scan_proper`). Blank text has no tokens (`scan_of_allBlank`), and no other text has none. A token
starts inside the text (`start_lt_of_scanFrom`).
-/

namespace RowAlert

namespace Lexeme

theorem proper_ofWord (cs : List Char) : (ofWord cs).Proper := by
  simp only [ofWord]
  split
  · trivial
  · split
    · trivial
    · split <;> trivial

theorem proper_of_operator? {cs : List Char} {l : Lexeme} {width : Nat}
    (h : operator? cs = some (l, width)) : l.Proper := by
  unfold operator? at h
  split at h <;> cases h <;> first | trivial | simp [Proper, Relation.all]

/-- The lexeme at the front of a text is a proper one. -/
theorem proper_of_front? {cs : List Char} {l : Lexeme} {width : Nat}
    (h : front? cs = some (l, width)) : l.Proper := by
  unfold front? at h
  split at h
  · cases h
  · dsimp only at h
    split at h
    · rename_i hwidth
      obtain ⟨f, hf, hchars⟩ := exists_numeral_of_numberWidth hwidth
      obtain ⟨rfl, -⟩ := Prod.mk.inj (Option.some.inj h)
      simp only [Proper, hchars, Number.ofText?, String.toList_ofList, f.ofChars?_chars hf,
        Option.isSome_some]
    · split at h
      · obtain ⟨body, -, hbody⟩ := Option.map_eq_some_iff.1 h
        obtain ⟨rfl, -⟩ := Prod.mk.inj hbody
        trivial
      · split at h
        · obtain ⟨rfl, -⟩ := Prod.mk.inj (Option.some.inj h)
          exact proper_ofWord _
        · exact proper_of_operator? h

end Lexeme

namespace Token

theorem scanFrom_skip (skip pos : Nat) (c : Char) (cs : List Char) :
    scanFrom (skip + 1) pos (c :: cs) = scanFrom skip (pos + 1) cs := rfl

theorem scanFrom_blank {c : Char} (h : Text.isBlank c = true) (pos : Nat) (cs : List Char) :
    scanFrom 0 pos (c :: cs) = scanFrom 0 (pos + 1) cs := by
  simp only [scanFrom, h, if_true]

theorem scanFrom_lexeme {c : Char} {cs : List Char} {l : Lexeme} {width : Nat}
    (hblank : Text.isBlank c = false) (h : Lexeme.front? (c :: cs) = some (l, width)) (pos : Nat) :
    scanFrom 0 pos (c :: cs)
      = (scanFrom (width - 1) (pos + 1) cs).map (⟨l, pos, pos + width⟩ :: ·) := by
  simp only [scanFrom, hblank, Bool.false_eq_true, if_false, h]

/-- The first token of a scan, and the scan behind it. -/
theorem scanFrom_lexeme_ok {pos : Nat} {c : Char} {cs : List Char} {ts : List Token}
    (hblank : Text.isBlank c = false) (h : scanFrom 0 pos (c :: cs) = .ok ts) :
    ∃ l width us, Lexeme.front? (c :: cs) = some (l, width) ∧
      scanFrom (width - 1) (pos + 1) cs = .ok us ∧ ts = ⟨l, pos, pos + width⟩ :: us := by
  cases hfront : Lexeme.front? (c :: cs) with
  | none =>
    simp only [scanFrom, hblank, Bool.false_eq_true, if_false, hfront] at h
    cases h
  | some front =>
    obtain ⟨l, width⟩ := front
    rw [scanFrom_lexeme hblank hfront] at h
    cases hscan : scanFrom (width - 1) (pos + 1) cs with
    | error refusal => rw [hscan] at h; cases h
    | ok us =>
      rw [hscan] at h
      exact ⟨l, width, us, rfl, hscan, (Except.ok.inj h).symm⟩

/-- What holds of the lexeme at the front of every text holds of all that are cut from a text. -/
theorem scanFrom_forall {P : Lexeme → Prop}
    (hfront : ∀ {cs l width}, Lexeme.front? cs = some (l, width) → P l) {skip pos : Nat}
    {cs : List Char} {ts : List Token} (h : scanFrom skip pos cs = .ok ts) :
    ∀ t ∈ ts, P t.lexeme := by
  induction cs generalizing skip pos ts with
  | nil =>
    rw [scanFrom] at h
    obtain rfl := Except.ok.inj h
    exact fun t ht => absurd ht List.not_mem_nil
  | cons c cs ih =>
    cases skip with
    | succ skip => exact ih h
    | zero =>
      by_cases hblank : Text.isBlank c = true
      · rw [scanFrom_blank hblank] at h
        exact ih h
      · obtain ⟨l, width, us, hl, hus, rfl⟩ := scanFrom_lexeme_ok (Bool.eq_false_iff.2 hblank) h
        rintro t (_ | ⟨_, ht⟩)
        · exact hfront hl
        · exact ih hus t ht

theorem scan_proper {cs : List Char} {ts : List Token} (h : scan cs = .ok ts) :
    ∀ t ∈ ts, t.lexeme.Proper :=
  scanFrom_forall Lexeme.proper_of_front? h

/-- A token starts inside the text that is scanned. -/
theorem start_lt_of_scanFrom {skip pos : Nat} {cs : List Char} {ts : List Token}
    (h : scanFrom skip pos cs = .ok ts) : ∀ t ∈ ts, t.start < pos + cs.length := by
  induction cs generalizing skip pos ts with
  | nil =>
    rw [scanFrom] at h
    obtain rfl := Except.ok.inj h
    exact fun t ht => absurd ht List.not_mem_nil
  | cons c cs ih =>
    have hbehind : pos + 1 + cs.length = pos + (c :: cs).length := by
      rw [List.length_cons]
      omega
    cases skip with
    | succ skip => exact hbehind ▸ ih h
    | zero =>
      by_cases hblank : Text.isBlank c = true
      · rw [scanFrom_blank hblank] at h
        exact hbehind ▸ ih h
      · obtain ⟨l, width, us, -, hus, rfl⟩ := scanFrom_lexeme_ok (Bool.eq_false_iff.2 hblank) h
        rintro t (_ | ⟨_, ht⟩)
        · exact Nat.lt_add_of_pos_right (Nat.zero_lt_succ cs.length)
        · exact hbehind ▸ ih hus t ht

theorem scanFrom_of_allBlank {cs : List Char} (h : Text.allBlank cs = true) (pos : Nat) :
    scanFrom 0 pos cs = .ok [] := by
  induction cs generalizing pos with
  | nil => rfl
  | cons c cs ih =>
    rw [Text.allBlank_cons, Bool.and_eq_true] at h
    rw [scanFrom_blank h.1, ih h.2]

/-- Blank text has no tokens. -/
theorem scan_of_allBlank {cs : List Char} (h : Text.allBlank cs = true) : scan cs = .ok [] :=
  scanFrom_of_allBlank h 0

/-- Text without tokens is blank. -/
theorem allBlank_of_scanFrom {skip pos : Nat} {cs : List Char}
    (h : scanFrom skip pos cs = .ok []) : Text.allBlank (cs.drop skip) = true := by
  induction cs generalizing skip pos with
  | nil => simp
  | cons c cs ih =>
    cases skip with
    | succ skip => exact ih h
    | zero =>
      by_cases hblank : Text.isBlank c = true
      · rw [scanFrom_blank hblank] at h
        rw [List.drop_zero, Text.allBlank_cons, hblank]
        exact ih h
      · obtain ⟨l, width, us, -, -, heq⟩ := scanFrom_lexeme_ok (Bool.eq_false_iff.2 hblank) h
        cases heq

end Token

end RowAlert
