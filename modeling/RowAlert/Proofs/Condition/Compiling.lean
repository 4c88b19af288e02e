import RowAlert.Proofs.Condition.Completeness
import RowAlert.Proofs.Condition.Scanning
import RowAlert.Proofs.Condition.Soundness
/-!
# RowAlert.Proofs.Condition.Compiling

**Which texts are conditions.**

A text that is cut into tokens compiles to a tree exactly if its lexemes have a derivation with that
tree; there is at most one derivation, and without one the text is refused with a parse error.
-/

namespace RowAlert.Condition

/-- A text whose lexemes have a derivation compiles to its tree. -/
theorem compile_of_derivation {text : String} {ts : List Token}
    (hscan : Token.scan text.toList = .ok ts) (d : OrExpr)
    (hts : d.lexemes = ts.map Token.lexeme) : compile text = .ok d.tree := by
  have hblank : Text.allBlank text.toList = false := by
    rw [Bool.eq_false_iff]
    intro hblank
    rw [Token.scan_of_allBlank hblank] at hscan
    obtain rfl := Except.ok.inj hscan
    exact d.lexemes_ne_nil hts
  simp only [compile, hblank, Bool.false_eq_true, if_false, hscan, parse_of_derivation d hts]

/-- What a text compiles to has a derivation with the lexemes of the text. -/
theorem derivation_of_compile {text : String} {ts : List Token} {c : Condition}
    (hscan : Token.scan text.toList = .ok ts) (h : compile text = .ok c) :
    ∃ d : OrExpr, d.lexemes = ts.map Token.lexeme ∧ d.tree = c := by
  simp only [compile, hscan] at h
  split at h
  · cases h
  · split at h
    · cases h
    · obtain rfl := Except.ok.inj h
      exact derivation_of_parse ‹_› (Token.scan_proper hscan)

/-- A text that is refused is refused with an error that quotes it. -/
theorem condition_of_compile_error {text : String} {e : ParseError} (h : compile text = .error e) :
    e.condition = text := by
  unfold compile at h
  dsimp only at h
  split at h
  · rw [← Except.error.inj h]
  · split at h
    · rw [← Except.error.inj h]
    · split at h
      · rw [← Except.error.inj h]
      · cases h

/-- A text of some tokens compiles to a tree exactly if the grammar derives its lexemes with that
tree. The derivation is unique, and without one the text is refused with a parse error about it. -/
theorem compile_iff_derivation {text : String} {ts : List Token}
    (hscan : Token.scan text.toList = .ok ts) :
    (∀ c, compile text = .ok c ↔ ∃ d : OrExpr, d.lexemes = ts.map Token.lexeme ∧ d.tree = c) ∧
      (∀ d e : OrExpr, d.lexemes = ts.map Token.lexeme → e.lexemes = ts.map Token.lexeme → d = e) ∧
      ((¬∃ d : OrExpr, d.lexemes = ts.map Token.lexeme) →
        ∃ e, compile text = .error e ∧ e.condition = text) := by
  refine ⟨fun c => ⟨derivation_of_compile hscan, ?_⟩, ?_, ?_⟩
  · rintro ⟨d, hd, rfl⟩
    exact compile_of_derivation hscan d hd
  · exact fun d e hd he => OrExpr.eq_of_lexemes (hd.trans he.symm)
  · intro hnone
    cases h : compile text with
    | error e => exact ⟨e, rfl, condition_of_compile_error h⟩
    | ok c =>
      obtain ⟨d, hd, -⟩ := derivation_of_compile hscan h
      exact absurd ⟨d, hd⟩ hnone

/-- `AND` binds tighter than `OR`, and a level of parentheses has alternatives of its own. -/
theorem compile_iff_derivation_nested :
    compile "a OR b and !(c == 'x' || True)" = .ok (.or (.operand (.field "a"))
      (.and (.operand (.field "b")) (.not (.or
        (.compare .equal (.field "c") (.literal (.text "x")))
        (.operand (.literal (.text "true"))))))) := by
  have hscan : Token.scan "a OR b and !(c == 'x' || True)".toList = .ok
      [⟨.word "a", 0, 1⟩, ⟨.or, 2, 4⟩, ⟨.word "b", 5, 6⟩, ⟨.and, 7, 10⟩, ⟨.not, 11, 12⟩,
        ⟨.opening, 12, 13⟩, ⟨.word "c", 13, 14⟩, ⟨.relation .equal, 15, 17⟩, ⟨.text "x", 18, 21⟩,
        ⟨.or, 22, 24⟩, ⟨.word "True", 25, 29⟩, ⟨.closing, 29, 30⟩] := by
    rfl
  refine ((compile_iff_derivation hscan).1 _).2 ⟨.chain
    (.chain (.primary (.operand ⟨.word "a", .field "a", .field (by decide)⟩)) .done)
    (.more (.chain (.primary (.operand ⟨.word "b", .field "b", .field (by decide)⟩))
      (.more (.not (.primary (.group (.chain
        (.chain (.primary (.comparison ⟨.word "c", .field "c", .field (by decide)⟩ .equal
          (by decide) ⟨.text "x", .literal (.text "x"), .text "x"⟩)) .done)
        (.more (.chain (.primary (.operand ⟨.word "True", .literal (.text "true"), ?_⟩)) .done)
          .done))))) .done)) .done), rfl, rfl⟩
  exact @Writes.truth "True" (by decide)

end RowAlert.Condition
