import RowAlert.Proofs.Comparison
import RowAlert.Proofs.Condition.Lookahead
import RowAlert.Proofs.Condition.Normalization
/-!
# RowAlert.Proofs.Condition.Literals

**A number in a condition and the same text in a cell.**

A text that is cut into one number is a numeral between blanks (`Token.exists_numeral_of_scan`), so a
cell with this text is read as the same numeral. A literal and a cell differ in one respect: a numeral
that is out of range makes an infinite literal, and leaves the cell a text. They are compared alike
exactly if the number is finite.
-/

namespace RowAlert

/-! ### Texts of one numeral -/

namespace Lexeme

theorem ofWord_ne_number (cs : List Char) (written : String) : ofWord cs ≠ number written := by
  intro h
  simp only [ofWord] at h
  split at h
  · cases h
  · split at h
    · cases h
    · split at h <;> cases h

theorem operator?_ne_number {cs : List Char} {width : Nat} (written : String) :
    operator? cs ≠ some (number written, width) := by
  intro h
  unfold operator? at h
  split at h <;> cases h

/-- A number at the front of a text is as long as the numeral there. -/
theorem width_of_front?_number {cs : List Char} {written : String} {width : Nat}
    (h : front? cs = some (number written, width)) :
    width = numberWidth cs ∧ width ≠ 0 ∧ written = String.ofList (cs.take width) := by
  unfold front? at h
  split at h
  · cases h
  · dsimp only at h
    split at h
    · obtain ⟨hwritten, rfl⟩ := Prod.mk.inj (Option.some.inj h)
      exact ⟨rfl, ‹_›, (number.inj hwritten).symm⟩
    · split at h
      · obtain ⟨body, -, hbody⟩ := Option.map_eq_some_iff.1 h
        cases (Prod.mk.inj hbody).1
      · split at h
        · exact absurd (Prod.mk.inj (Option.some.inj h)).1 (ofWord_ne_number _ written)
        · exact absurd h (operator?_ne_number written)

end Lexeme

namespace Token

/-- A text that is cut into one number is a numeral between blanks. -/
theorem exists_numeral_of_scan {pos start stop : Nat} {cs : List Char} {written : String}
    (h : scanFrom 0 pos cs = .ok [⟨.number written, start, stop⟩]) :
    ∃ (before behind : List Char) (f : NumeralForm), f.Valid Text.isDigit ∧
      written = String.ofList f.chars ∧ cs = before ++ (f.chars ++ behind) ∧
      Text.allBlank before = true ∧ Text.allBlank behind = true := by
  induction cs generalizing pos with
  | nil => cases h
  | cons c cs ih =>
    by_cases hblank : Text.isBlank c = true
    · rw [scanFrom_blank hblank] at h
      obtain ⟨before, behind, f, hf, hwritten, rfl, hbefore, hbehind⟩ := ih h
      refine ⟨c :: before, behind, f, hf, hwritten, rfl, ?_, hbehind⟩
      rw [Text.allBlank_cons, hblank, hbefore]
      rfl
    · obtain ⟨l, width, us, hfront, hus, heq⟩ := scanFrom_lexeme_ok (Bool.eq_false_iff.2 hblank) h
      obtain ⟨htoken, rfl⟩ := List.cons.inj heq
      obtain ⟨rfl, -, -⟩ := Token.mk.inj htoken
      obtain ⟨rfl, hwidth, hwritten⟩ := Lexeme.width_of_front?_number hfront
      obtain ⟨f, hf, hchars⟩ := Lexeme.exists_numeral_of_numberWidth hwidth
      have hbehind := allBlank_of_scanFrom hus
      refine ⟨[], (c :: cs).drop (Lexeme.numberWidth (c :: cs)), f, hf, ?_, ?_, rfl, ?_⟩
      · rw [hwritten, hchars]
      · rw [List.nil_append, ← hchars, List.take_append_drop]
      · obtain ⟨n, hn⟩ := Nat.exists_eq_succ_of_ne_zero hwidth
        rw [hn, Nat.succ_sub_one] at hbehind
        rw [hn]
        exact hbehind

end Token

namespace Condition

/-- The number of a text that is cut into one number: a literal of it, and the cell with this text, are
read from the same numeral. -/
theorem exists_number_of_scan {t written : String} {start stop : Nat}
    (h : Token.scan t.toList = .ok [⟨.number written, start, stop⟩]) :
    ∃ x, Number.ofText? written = some x ∧ x ≠ .nan ∧
      Number.ofChars? (Text.trim t.toList) = some x ∧ ∃ c ∈ t.toList, Text.isDigit c = true := by
  obtain ⟨before, behind, f, hf, rfl, ht, hbefore, hbehind⟩ := Token.exists_numeral_of_scan h
  obtain ⟨c, hc, hdigit⟩ := hf.exists_digit
  have htrim : Text.trim t.toList = f.chars := by
    rw [ht]
    exact Text.trim_enclosed hbefore hbehind (List.ne_nil_of_mem hc) fun c hc => hf.not_isBlank hc
  refine ⟨_, ?_, Number.ofDecimal_ne_nan f.plain.decimal, ?_, c, ?_, hdigit⟩
  · rw [Number.ofText?, String.toList_ofList, f.ofChars?_chars hf]
  · rw [htrim, f.ofChars?_chars hf]
  · rw [ht]
    simp [hc]

/-- A cell that shows a digit does not equal an infinity. -/
theorem compare_text_infinite {t : String} {c : Char} (hc : c ∈ t.toList)
    (hdigit : Text.isDigit c = true) (hview : (Value.text t).number? = none) (negative : Bool) :
    Value.compare .equal (.text t) (.number (.infinite negative)) = .ok false := by
  have htext : (Value.text t).comparedText = t := Value.comparedText_of_digit hc hdigit
  have hwords : ∀ negative, ((Number.infinite negative).plainText.toList.all fun c =>
      !Text.isDigit c) = true := by
    decide
  have hne : t ≠ (Number.infinite negative).plainText := by
    intro heq
    have hword := List.all_eq_true.1 (hwords negative) c (heq ▸ hc)
    rw [hdigit] at hword
    cases hword
  rw [Value.compare_of_present (Value.text_ne_missing t) (Value.number_ne_missing _), hview]
  simp only [Relation.onTexts, htext, Value.comparedText_infinite, hne, decide_false]

/-- A literal and a cell of the same numeral are compared alike if the numeral is in range. -/
theorem compare_literal_eq_cell_iff {t : String} {x : Number}
    (hreads : Number.ofChars? (Text.trim t.toList) = some x) :
    (∀ r v, (Value.compare r (.number x) v).toOption = (Value.compare r (.text t) v).toOption ∧
        (Value.compare r v (.number x)).toOption = (Value.compare r v (.text t)).toOption) ↔
      x.isFinite = true := by
  constructor
  · intro halike
    cases hfinite : x.isFinite with
    | true => rfl
    | false =>
      -- Of an infinity it is known whether it is less than zero, of a text it is not.
      have hview : (Value.text t).number? = none := by
        simp only [Value.number?, hreads, hfinite, Bool.false_eq_true, if_false]
      have horder := (halike .less (.number .zero)).1
      rw [Value.compare_of_present (Value.number_ne_missing x) (Value.number_ne_missing _),
        Value.compare_of_present (Value.text_ne_missing t) (Value.number_ne_missing _),
        hview] at horder
      cases horder
  · intro hfinite r v
    exact Value.compare_congr_of_number? rfl (Value.number?_text_eq_some_iff.2 ⟨hreads, hfinite⟩)
      hfinite r v

theorem evaluate_compare_of_values (r : Relation) {left right : Operand} {row : Row} {v w : Value}
    (hv : left.valueOn row = .ok v) (hw : right.valueOn row = .ok w) :
    (compare r left right).evaluate row = Value.compare r v w := by
  rw [evaluate, hv, hw]
  rfl

/-- Asking a cell for the numeral that it holds. -/
theorem evaluate_equal_literal {t : String} {x : Number} {c : Char} (hx : x ≠ .nan)
    (hreads : Number.ofChars? (Text.trim t.toList) = some x) (hc : c ∈ t.toList)
    (hdigit : Text.isDigit c = true) {row : Row} {name : String} (hcell : row.get? name = some t) :
    (compare .equal (.field name) (.literal (.number x))).evaluate row = .ok x.isFinite := by
  have hvalue : (Operand.field name).valueOn row = .ok (.text t) := by
    rw [Operand.valueOn, hcell]
  rw [evaluate_compare_of_values .equal hvalue rfl]
  cases x with
  | nan => exact absurd rfl hx
  | finite negative m =>
    have hview := Value.number?_text_eq_some_iff.2 ⟨hreads, rfl⟩
    rw [Value.compare_of_present (Value.text_ne_missing t) (Value.number_ne_missing _), hview]
    exact congrArg Except.ok (Number.equal_refl hx)
  | infinite negative =>
    have hview : (Value.text t).number? = none := by
      simp [Value.number?, hreads, Number.isFinite]
    exact compare_text_infinite hc hdigit hview negative

/-- A comparison of a field with a text that is cut into one number. -/
theorem compile_equal_literal {t written : String} {start stop : Nat} {x : Number}
    (hscan : Token.scan t.toList = .ok [⟨.number written, start, stop⟩])
    (hx : Number.ofText? written = some x) {name : String} (hname : isFieldName name = true) :
    compile (name ++ " == " ++ t) =
      .ok (compare .equal (.field name) (.literal (.number x))) := by
  obtain ⟨a, ha, hspells⟩ := exists_atom_of_field hname
  have hrelation : Spells Relation.equal.symbol.toList [.relation .equal] :=
    Spells.relation (by decide)
  have htext : Spells (name ++ " == " ++ t).toList
      [a.lexeme, .relation .equal, .number written] := by
    have hspaced := Cuts.spaced hspells (Cuts.spaced hrelation (Spells.of_scan hscan))
    simpa [Spells, Relation.symbol] using hspaced
  obtain ⟨ts, hts, htokens⟩ := htext.scan
  rw [compile_of_derivation htokens (.chain (.chain (.primary (.comparison a .equal (by decide)
    ⟨.number written, .literal (.number x), .number hx⟩)) .done) .done) hts.symm]
  simp [OrExpr.tree, OrRest.treeFrom, AndExpr.tree, AndRest.treeFrom, NotExpr.tree, Primary.tree, ha]

/-- **A number means the same in a condition and in a cell exactly if it is in range.** The text of one
number makes a literal. Comparing this literal with any value, on either side, gives what comparing the
cell with this text gives, if and only if the literal is finite; and a condition that asks a field for
the number holds on the rows that have the text there if and only if the literal is finite. -/
theorem literal_like_cell_iff {t written : String} {start stop : Nat}
    (hscan : Token.scan t.toList = .ok [⟨.number written, start, stop⟩]) :
    ∃ x, operandOf? (.number written) = some (.literal (.number x)) ∧
      ((∀ r v, (Value.compare r (.number x) v).toOption = (Value.compare r (.text t) v).toOption ∧
          (Value.compare r v (.number x)).toOption = (Value.compare r v (.text t)).toOption) ↔
        x.isFinite = true) ∧
      ∀ name, isFieldName name = true → ∃ c, compile (name ++ " == " ++ t) = .ok c ∧
        ∀ row : Row, row.get? name = some t → c.evaluate row = .ok x.isFinite := by
  obtain ⟨x, hx, hnan, hreads, c, hc, hdigit⟩ := exists_number_of_scan hscan
  refine ⟨x, ?_, compare_literal_eq_cell_iff hreads, ?_⟩
  · rw [operandOf?, hx, Option.getD_some]
  · intro name hname
    refine ⟨_, compile_equal_literal hscan hx hname, ?_⟩
    intro row hcell
    exact evaluate_equal_literal hnan hreads hc hdigit hcell

/-- A negative number with an exponent, between blanks. -/
theorem literal_like_cell_iff_padded :
    Token.scan " -2.50e1 ".toList = .ok [⟨.number "-2.50e1", 1, 8⟩] ∧
      ∃ x, operandOf? (.number "-2.50e1") = some (.literal (.number x)) ∧
        ((∀ r v, (Value.compare r (.number x) v).toOption =
              (Value.compare r (.text " -2.50e1 ") v).toOption ∧
            (Value.compare r v (.number x)).toOption =
              (Value.compare r v (.text " -2.50e1 ")).toOption) ↔
          x.isFinite = true) ∧
        ∀ name, isFieldName name = true → ∃ c, compile (name ++ " == " ++ " -2.50e1 ") = .ok c ∧
          ∀ row : Row, row.get? name = some " -2.50e1 " → c.evaluate row = .ok x.isFinite :=
  ⟨rfl, literal_like_cell_iff rfl⟩

/-- A numeral that is out of range: the cell that holds it does not equal it. -/
theorem not_like_cell_out_of_range :
    ¬∀ (t written : String) (start stop : Nat) (x : Number),
      Token.scan t.toList = .ok [⟨.number written, start, stop⟩] →
      operandOf? (.number written) = some (.literal (.number x)) →
      (∀ r v, (∀ name, v ≠ .missing name) →
        (Value.compare r (.number x) v).toOption = (Value.compare r (.text t) v).toOption) ∧
      ∀ row : Row, row.get? "f" = some t →
        (compare .equal (.field "f") (.literal (.number x))).evaluate row = .ok true := by
  intro h
  have hfield := (h "1e400" "1e400" 0 5 (.infinite false) rfl rfl).2 ⟨[("f", "1e400")], [], some 0⟩ rfl
  have hfalse : (compare .equal (.field "f") (.literal (.number (.infinite false)))).evaluate
      ⟨[("f", "1e400")], [], some 0⟩ = .ok false := by
    decide +kernel
  rw [hfalse] at hfield
  cases hfield

end Condition

end RowAlert
