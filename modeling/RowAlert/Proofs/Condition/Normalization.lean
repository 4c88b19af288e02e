import RowAlert.Proofs.Condition.RoundTrip
/-!
# RowAlert.Proofs.Condition.Normalization

**Which conditions survive their normal spelling.**

Everything that is read from a text can be written in a text: its names are words, and a numeral
never reads as NaN (`readable_of_compile`). A numeral may be out of range, though, and then it reads
as an infinity, which prints as `inf` or `-inf`. The first of these is a name and the second is
refused, so a condition comes back from its normal spelling exactly if none of its numbers is
infinite.
-/

namespace RowAlert

/-! ### What a cut lexeme writes -/

namespace Number

theorem ofUnits_ne_nan (negative : Bool) (a b : Nat) : ofUnits negative a b ≠ nan := by
  unfold ofUnits
  split <;> nofun

theorem ofDecimal_ne_nan (d : Numeral.Decimal) : ofDecimal d ≠ nan := by
  unfold ofDecimal
  dsimp only
  split
  · nofun
  · split
    · nofun
    · exact ofUnits_ne_nan _ _ _

end Number

namespace Lexeme

/-- The lexeme writes nothing but operands that can be read. -/
def WritesReadable (l : Lexeme) : Prop := ∀ o, Condition.Writes l o → o.Readable

theorem writesReadable_number {f : NumeralForm} (h : f.Valid Text.isDigit) :
    (number (String.ofList f.chars)).WritesReadable := by
  rintro o ⟨hreads⟩
  rw [Number.ofText?, String.toList_ofList, f.ofChars?_chars h] at hreads
  rw [← Option.some.inj hreads]
  exact Number.ofDecimal_ne_nan f.plain.decimal

theorem writesReadable_text (content : String) : (text content).WritesReadable := by
  rintro o ⟨⟩
  trivial

/-- A word is a connective, or it writes a truth value, or else it is a field name. -/
theorem writesReadable_ofWord {c : Char} {cs : List Char} (hc : startsWord c = true)
    (hcs : ∀ d ∈ cs, continuesWord d = true) : (ofWord (c :: cs)).WritesReadable := by
  intro o ho
  by_cases hand : String.ofList ((c :: cs).map Char.toLower) = "and"
  · simp only [ofWord, hand, if_true] at ho
    cases ho
  · by_cases hor : String.ofList ((c :: cs).map Char.toLower) = "or"
    · simp only [ofWord, hor] at ho
      cases ho
    · by_cases hnot : String.ofList ((c :: cs).map Char.toLower) = "not"
      · simp only [ofWord, hnot] at ho
        cases ho
      · simp only [ofWord, hand, hor, hnot, if_false] at ho
        cases ho with
        | truth htruth => trivial
        | field hfield =>
          simp only [Value.truthWords, List.mem_cons, List.not_mem_nil, or_false, not_or,
            String.toList_ofList] at hfield
          simp only [Operand.Readable, isFieldName, String.toList_ofList, hc, Bool.true_and,
            List.all_eq_true.2 hcs, reservedWords, List.contains_eq_mem, List.mem_cons,
            List.not_mem_nil, hand, hor, hnot, hfield.1, hfield.2, or_false, decide_false,
            Bool.not_false]

theorem writesReadable_of_operator? {cs : List Char} {l : Lexeme} {width : Nat}
    (h : operator? cs = some (l, width)) : l.WritesReadable := by
  intro o ho
  unfold operator? at h
  split at h <;> cases h <;> cases ho

/-- The lexeme at the front of a text writes nothing but operands that can be read. -/
theorem writesReadable_of_front? {cs : List Char} {l : Lexeme} {width : Nat}
    (h : front? cs = some (l, width)) : l.WritesReadable := by
  unfold front? at h
  split at h
  · cases h
  · rename_i c rest
    dsimp only at h
    split at h
    · rename_i hwidth
      obtain ⟨f, hf, hchars⟩ := exists_numeral_of_numberWidth hwidth
      obtain ⟨rfl, -⟩ := Prod.mk.inj (Option.some.inj h)
      rw [hchars]
      exact writesReadable_number hf
    · split at h
      · obtain ⟨body, -, hbody⟩ := Option.map_eq_some_iff.1 h
        obtain ⟨rfl, -⟩ := Prod.mk.inj hbody
        exact writesReadable_text _
      · split at h
        · rename_i hstart
          obtain ⟨rfl, -⟩ := Prod.mk.inj (Option.some.inj h)
          have hc := Spells.continuesWord_of_startsWord hstart
          rw [List.takeWhile_cons_of_pos hc]
          exact writesReadable_ofWord hstart (List.all_eq_true.1 List.all_takeWhile)
        · exact writesReadable_of_operator? h

end Lexeme

namespace Condition

/-! ### What is read -/

theorem Atom.readable {a : Atom} {ls : List Lexeme} (h : ∀ l ∈ ls, l.WritesReadable)
    (ha : a.lexeme ∈ ls) : a.operand.Readable :=
  h a.lexeme ha a.operand a.writes

-- By induction on the derivation; the chains carry what stands to their left.
mutual

theorem OrExpr.readable_tree : ∀ (d : OrExpr), (∀ l ∈ d.lexemes, l.WritesReadable) →
    d.tree.Readable
  | .chain a t, h => by
    simp only [OrExpr.lexemes, List.forall_mem_append] at h
    exact OrRest.readable_treeFrom t h.2 (AndExpr.readable_tree a h.1)

theorem OrRest.readable_treeFrom : ∀ (t : OrRest), (∀ l ∈ t.lexemes, l.WritesReadable) →
    ∀ {left : Condition}, left.Readable → (t.treeFrom left).Readable
  | .done, _, _, hleft => hleft
  | .more a t, h, left, hleft => by
    simp only [OrRest.lexemes, List.forall_mem_cons, List.forall_mem_append] at h
    exact OrRest.readable_treeFrom t h.2.2 ⟨hleft, AndExpr.readable_tree a h.2.1⟩

theorem AndExpr.readable_tree : ∀ (d : AndExpr), (∀ l ∈ d.lexemes, l.WritesReadable) →
    d.tree.Readable
  | .chain a t, h => by
    simp only [AndExpr.lexemes, List.forall_mem_append] at h
    exact AndRest.readable_treeFrom t h.2 (NotExpr.readable_tree a h.1)

theorem AndRest.readable_treeFrom : ∀ (t : AndRest), (∀ l ∈ t.lexemes, l.WritesReadable) →
    ∀ {left : Condition}, left.Readable → (t.treeFrom left).Readable
  | .done, _, _, hleft => hleft
  | .more a t, h, left, hleft => by
    simp only [AndRest.lexemes, List.forall_mem_cons, List.forall_mem_append] at h
    exact AndRest.readable_treeFrom t h.2.2 ⟨hleft, NotExpr.readable_tree a h.2.1⟩

theorem NotExpr.readable_tree : ∀ (d : NotExpr), (∀ l ∈ d.lexemes, l.WritesReadable) →
    d.tree.Readable
  | .not d, h => NotExpr.readable_tree d (List.forall_mem_cons.1 h).2
  | .primary p, h => Primary.readable_tree p h

theorem Primary.readable_tree : ∀ (p : Primary), (∀ l ∈ p.lexemes, l.WritesReadable) →
    p.tree.Readable
  | .group d, h => by
    simp only [Primary.lexemes, List.forall_mem_cons, List.forall_mem_append] at h
    exact OrExpr.readable_tree d h.2.1
  | .operand a, h => Atom.readable h List.mem_cons_self
  | .comparison a r hr b, h =>
    ⟨hr, Atom.readable h (by simp [Primary.lexemes]), Atom.readable h (by simp [Primary.lexemes])⟩

end

/-- Whatever a text compiles to can be read. -/
theorem readable_of_compile {text : String} {c : Condition} (h : compile text = .ok c) :
    c.Readable := by
  cases hscan : Token.scan text.toList with
  | error refusal =>
    simp only [compile, hscan] at h
    split at h <;> cases h
  | ok ts =>
    obtain ⟨d, hd, rfl⟩ := derivation_of_compile hscan h
    refine d.readable_tree fun l hl => ?_
    rw [hd] at hl
    obtain ⟨t, ht, rfl⟩ := List.mem_map.1 hl
    exact Token.scanFrom_forall Lexeme.writesReadable_of_front? hscan t ht

/-! ### Reading a normal spelling -/

/-- A text in which a term is found compiles to its tree, and one that is refused does not compile. -/
theorem toOption_compile {text : String} {d : Option NotExpr}
    (h : Cuts text.toList (d.map NotExpr.lexemes)) :
    (compile text).toOption = d.map NotExpr.tree := by
  cases d with
  | none =>
    cases hscan : Token.scan text.toList with
    | error refusal =>
      simp only [compile, hscan]
      split <;> rfl
    | ok ts =>
      have hfound := h.scan
      rw [hscan] at hfound
      cases hfound
  | some d =>
    obtain ⟨ts, hts, hscan⟩ := Spells.scan h
    rw [compile_of_derivation hscan (.chain (.chain d .done) .done) ?_]
    · rfl
    · simp [OrExpr.lexemes, OrRest.lexemes, AndExpr.lexemes, AndRest.lexemes, hts]

/-- A condition that was read from a text has a normal spelling, and compiling that gives the
condition again exactly if none of its numbers is infinite. -/
theorem compile_normalized_iff_isFinite {text : String} {c : Condition}
    (h : compile text = .ok c) :
    ∃ source, c.print = .ok source ∧
      ((∃ c', compile source = .ok c' ∧ c'.same c = true) ↔ c.isFinite = true) := by
  have hreadable := readable_of_compile h
  obtain ⟨d, hcuts, hd⟩ := exists_term hreadable
  refine ⟨c.source, print_of_readable hreadable, ?_⟩
  have hcompile := toOption_compile hcuts
  constructor
  · rintro ⟨c', hc', hsame⟩
    rw [hc'] at hcompile
    obtain ⟨e, rfl, rfl⟩ := Option.map_eq_some_iff.1 hcompile.symm
    exact hd.symm.trans hsame
  · intro hfinite
    obtain ⟨e, rfl, hsame⟩ := (Option.any_eq_true _ _).1 (hd.trans hfinite)
    cases hsource : compile c.source with
    | error refusal => rw [hsource] at hcompile; cases hcompile
    | ok c' =>
      rw [hsource] at hcompile
      exact ⟨c', rfl, Option.some.inj hcompile ▸ hsame⟩

/-- A number, a quoted text, and connectives in three spellings. -/
theorem compile_normalized_iff_isFinite_mixed :
    ∃ c, compile "a >= -1.5e3 or !(b == 'x' && c)" = .ok c ∧ ∃ source, c.print = .ok source ∧
      ((∃ c', compile source = .ok c' ∧ c'.same c = true) ↔ c.isFinite = true) := by
  have hcompile : compile "a >= -1.5e3 or !(b == 'x' && c)" = .ok (.or
      (.compare .atLeast (.field "a") (.literal (.number (.ofRatio true 1500 1))))
      (.not (.and (.compare .equal (.field "b") (.literal (.text "x"))) (.operand (.field "c"))))) := by
    decide +kernel
  exact ⟨_, hcompile, compile_normalized_iff_isFinite hcompile⟩

/-- A numeral that is out of range does not survive: it prints as a name. -/
theorem not_normalized_out_of_range :
    ¬∀ (text : String) (c : Condition), compile text = .ok c →
      ∃ source c', c.print = .ok source ∧ compile source = .ok c' ∧ c'.same c = true := by
  intro h
  obtain ⟨source, c', hprint, hcompile, hsame⟩ := h "a > 1e400"
    (.compare .greater (.field "a") (.literal (.number (.infinite false)))) rfl
  obtain rfl : "a > inf" = source := Except.ok.inj hprint
  have hname : compile "a > inf" = .ok (.compare .greater (.field "a") (.field "inf")) := rfl
  obtain rfl := Except.ok.inj (hname.symm.trans hcompile)
  cases hsame

end Condition

end RowAlert
