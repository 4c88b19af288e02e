import RowAlert.Proofs.Condition.Grammar
/-!
# RowAlert.Proofs.Condition.Completeness

**The reader accepts every derivation** and gives its tree.

By induction on the derivation: a phrase takes the machine through its lexemes, leaves the levels
around it alone and adds its tree to what is pending on its own level.
-/

namespace RowAlert.Condition

/-! ### Runs -/

namespace State

theorem run_nil (s : State) : s.run [] = .ok s := rfl

theorem run_cons_ok {s s' : State} {t : Token} (h : s.step t = .ok s') (ts : List Token) :
    s.run (t :: ts) = s'.run ts := by
  rw [run, List.foldlM_cons, h]
  rfl

theorem run_append_ok {s s' : State} {ts : List Token} (h : s.run ts = .ok s') (us : List Token) :
    s.run (ts ++ us) = s'.run us := by
  rw [run] at h
  rw [run, List.foldlM_append, h]
  rfl

/-- Behind a complete term everything but a relation goes on with the level. -/
theorem step_behind_term {s : State} {term : Condition} {t : Token}
    (hs : term? s.expected = some term) (ht : ∀ r, t.lexeme ≠ .relation r) :
    s.step t = s.stepConnective term t := by
  cases he : s.expected with
  | term opened => rw [he] at hs; cases hs
  | comparand left r => rw [he] at hs; cases hs
  | relation left =>
    rw [he] at hs
    obtain rfl := Option.some.inj hs
    simp only [step, he]
  | connective c =>
    rw [he] at hs
    obtain rfl := Option.some.inj hs
    simp only [step, he]

/-- What is pending on the level, down to the last `OR`, with the term that is complete. -/
def requirement? (s : State) : Option Condition := (term? s.expected).map s.level.conjunction

/-- All that is pending on the level, with the term that is complete. -/
def alternative? (s : State) : Option Condition := (term? s.expected).map s.level.disjunction

theorem requirement?_first {s : State} {term : Condition} (hterm : term? s.expected = some term)
    (h : s.level.conjunct = none) :
    s.requirement? = some (Level.negated s.level.negations term) := by
  rw [requirement?, hterm, Option.map_some, Level.conjunction, h]

theorem requirement?_next {s : State} {left term : Condition}
    (hterm : term? s.expected = some term) (h : s.level.conjunct = some left) :
    s.requirement? = some (.and left (Level.negated s.level.negations term)) := by
  rw [requirement?, hterm, Option.map_some, Level.conjunction, h]

theorem alternative?_first {s : State} {c : Condition} (hs : s.requirement? = some c)
    (h : s.level.disjunct = none) : s.alternative? = some c := by
  obtain ⟨term, hterm, rfl⟩ := Option.map_eq_some_iff.1 hs
  rw [alternative?, hterm, Option.map_some, Level.disjunction, h]

theorem alternative?_next {s : State} {left c : Condition} (hs : s.requirement? = some c)
    (h : s.level.disjunct = some left) : s.alternative? = some (.or left c) := by
  obtain ⟨term, hterm, rfl⟩ := Option.map_eq_some_iff.1 hs
  rw [alternative?, hterm, Option.map_some, Level.disjunction, h]

/-- The levels around stay as they are. -/
structure SameLevel (s s' : State) : Prop where
  opened : s'.level.opened = s.level.opened
  outer : s'.outer = s.outer

theorem SameLevel.trans {s s' s'' : State} (h : SameLevel s s') (h' : SameLevel s' s'') :
    SameLevel s s'' :=
  ⟨h'.opened.trans h.opened, h'.outer.trans h.outer⟩

/-- An AND takes what is required so far as its left side. -/
theorem step_and {s : State} {c : Condition} {t : Token} (hs : s.requirement? = some c)
    (ht : t.lexeme = .and) :
    s.step t = .ok ⟨.term false, ⟨s.level.disjunct, some c, 0, s.level.opened⟩, s.outer⟩ := by
  obtain ⟨term, hterm, rfl⟩ := Option.map_eq_some_iff.1 hs
  rw [step_behind_term hterm (by simp [ht]), stepConnective, ht]
  rfl

/-- An OR takes all of the level as its left side. -/
theorem step_or {s : State} {c : Condition} {t : Token} (hs : s.alternative? = some c)
    (ht : t.lexeme = .or) :
    s.step t = .ok ⟨.term false, ⟨some c, none, 0, s.level.opened⟩, s.outer⟩ := by
  obtain ⟨term, hterm, rfl⟩ := Option.map_eq_some_iff.1 hs
  rw [step_behind_term hterm (by simp [ht]), stepConnective, ht]
  rfl

/-- A closing parenthesis makes a term of its level. -/
theorem step_closing {s : State} {c : Condition} {t : Token} {level : Level} {outer : List Level}
    (hs : s.alternative? = some c) (houter : s.outer = level :: outer) (ht : t.lexeme = .closing) :
    s.step t = .ok ⟨.connective c, level, outer⟩ := by
  obtain ⟨term, hterm, rfl⟩ := Option.map_eq_some_iff.1 hs
  rw [step_behind_term hterm (by simp [ht]), stepConnective, ht]
  simp only [houter]

/-- An operand waits for its relation. -/
theorem step_operand {s : State} {b : Bool} {t : Token} (a : Atom) (hs : s.expected = .term b)
    (ht : t.lexeme = a.lexeme) : s.step t = .ok { s with expected := .relation a.operand } := by
  obtain ⟨l, o, h⟩ := a
  have hoperand := h.operandOf?
  cases h <;> simp only [step, hs, stepTerm, ht, hoperand]

end State

/-! ### Completeness -/

open State

theorem Level.negated_not (n : Nat) (c : Condition) :
    Level.negated n (.not c) = Level.negated (n + 1) c := by
  induction n with
  | zero => rfl
  | succ n ih => exact congrArg Condition.not ih

-- By induction on the derivation, over every state in which such a phrase may begin. A phrase changes
-- its own level only: an alternative leaves the pending one alone, and a primary everything.
mutual

theorem OrExpr.run_ok : ∀ (d : OrExpr) {s : State} {b : Bool} {ts : List Token},
    s.expected = .term b → s.level = .fresh s.level.opened → ts.map Token.lexeme = d.lexemes →
    ∃ s', s.run ts = .ok s' ∧ s'.alternative? = some d.tree ∧ SameLevel s s'
  | .chain first rest, s, b, ts, hs, hfresh, hts => by
    obtain ⟨us, vs, rfl, hus, hvs⟩ := List.map_eq_append_iff.1 hts
    obtain ⟨s', hrun, hs', hdisjunct, hsame⟩ :=
      first.run_ok hs (by rw [hfresh]; rfl) (by rw [hfresh]; rfl) hus
    have hnone : s'.level.disjunct = none := by rw [hdisjunct, hfresh]; rfl
    obtain ⟨s₂, hrun₂, hs₂, hsame₂⟩ := rest.run_ok (alternative?_first hs' hnone) hvs
    refine ⟨s₂, ?_, hs₂, hsame.trans hsame₂⟩
    rw [run_append_ok hrun, hrun₂]

theorem OrRest.run_ok : ∀ (d : OrRest) {s : State} {c : Condition} {ts : List Token},
    s.alternative? = some c → ts.map Token.lexeme = d.lexemes →
    ∃ s', s.run ts = .ok s' ∧ s'.alternative? = some (d.treeFrom c) ∧ SameLevel s s'
  | .done, s, c, ts, hs, hts => by
    obtain rfl := List.map_eq_nil_iff.1 hts
    exact ⟨s, run_nil s, hs, rfl, rfl⟩
  | .more next rest, s, c, ts, hs, hts => by
    obtain ⟨t, ts, rfl, ht, hts⟩ := List.map_eq_cons_iff.1 hts
    obtain ⟨us, vs, rfl, hus, hvs⟩ := List.map_eq_append_iff.1 hts
    obtain ⟨s', hrun, hs', hdisjunct, hsame⟩ :=
      next.run_ok (s := ⟨.term false, ⟨some c, none, 0, s.level.opened⟩, s.outer⟩) rfl rfl rfl hus
    obtain ⟨s₂, hrun₂, hs₂, hsame₂⟩ := rest.run_ok (alternative?_next hs' hdisjunct) hvs
    refine ⟨s₂, ?_, hs₂, SameLevel.trans ⟨hsame.opened, hsame.outer⟩ hsame₂⟩
    rw [run_cons_ok (step_or hs ht), run_append_ok hrun, hrun₂]

theorem AndExpr.run_ok : ∀ (d : AndExpr) {s : State} {b : Bool} {ts : List Token},
    s.expected = .term b → s.level.conjunct = none → s.level.negations = 0 →
    ts.map Token.lexeme = d.lexemes →
    ∃ s', s.run ts = .ok s' ∧ s'.requirement? = some d.tree ∧
      s'.level.disjunct = s.level.disjunct ∧ SameLevel s s'
  | .chain first rest, s, b, ts, hs, hconjunct, hnegations, hts => by
    obtain ⟨us, vs, rfl, hus, hvs⟩ := List.map_eq_append_iff.1 hts
    obtain ⟨e, n, term, hrun, hterm, hnegated⟩ := first.run_ok hs hus
    rw [hnegations] at hnegated
    have hfirst := requirement?_first
      (s := ⟨e, { s.level with negations := n }, s.outer⟩) hterm hconjunct
    rw [hnegated] at hfirst
    obtain ⟨s₂, hrun₂, hs₂, hdisjunct, hsame⟩ := rest.run_ok hfirst hvs
    refine ⟨s₂, ?_, hs₂, hdisjunct, hsame.opened, hsame.outer⟩
    rw [run_append_ok hrun, hrun₂]

theorem AndRest.run_ok : ∀ (d : AndRest) {s : State} {c : Condition} {ts : List Token},
    s.requirement? = some c → ts.map Token.lexeme = d.lexemes →
    ∃ s', s.run ts = .ok s' ∧ s'.requirement? = some (d.treeFrom c) ∧
      s'.level.disjunct = s.level.disjunct ∧ SameLevel s s'
  | .done, s, c, ts, hs, hts => by
    obtain rfl := List.map_eq_nil_iff.1 hts
    exact ⟨s, run_nil s, hs, rfl, rfl, rfl⟩
  | .more next rest, s, c, ts, hs, hts => by
    obtain ⟨t, ts, rfl, ht, hts⟩ := List.map_eq_cons_iff.1 hts
    obtain ⟨us, vs, rfl, hus, hvs⟩ := List.map_eq_append_iff.1 hts
    obtain ⟨e, n, term, hrun, hterm, hnegated⟩ := next.run_ok
      (s := ⟨.term false, ⟨s.level.disjunct, some c, 0, s.level.opened⟩, s.outer⟩) rfl hus
    have hnext := requirement?_next
      (s := ⟨e, ⟨s.level.disjunct, some c, n, s.level.opened⟩, s.outer⟩) hterm rfl
    rw [hnegated] at hnext
    obtain ⟨s₂, hrun₂, hs₂, hdisjunct, hsame⟩ := rest.run_ok hnext hvs
    refine ⟨s₂, ?_, hs₂, hdisjunct, hsame.opened, hsame.outer⟩
    rw [run_cons_ok (step_and hs ht), run_append_ok hrun, hrun₂]

theorem NotExpr.run_ok : ∀ (d : NotExpr) {s : State} {b : Bool} {ts : List Token},
    s.expected = .term b → ts.map Token.lexeme = d.lexemes →
    ∃ e n term, s.run ts = .ok ⟨e, { s.level with negations := n }, s.outer⟩ ∧
      term? e = some term ∧ Level.negated n term = Level.negated s.level.negations d.tree
  | .not inner, s, b, ts, hs, hts => by
    obtain ⟨t, ts, rfl, ht, hts⟩ := List.map_eq_cons_iff.1 hts
    have hstep : s.step t = .ok ⟨.term false,
        { s.level with negations := s.level.negations + 1 }, s.outer⟩ := by
      simp only [step, hs, stepTerm, ht]
    obtain ⟨e, n, term, hrun, hterm, hnegated⟩ := inner.run_ok
      (s := ⟨.term false, { s.level with negations := s.level.negations + 1 }, s.outer⟩) rfl hts
    refine ⟨e, n, term, ?_, hterm, ?_⟩
    · rw [run_cons_ok hstep, hrun]
    · rw [hnegated, NotExpr.tree, Level.negated_not]
  | .primary p, s, b, ts, hs, hts => by
    obtain ⟨e, hrun, hterm⟩ := p.run_ok hs hts
    exact ⟨e, s.level.negations, p.tree, hrun, hterm, rfl⟩

theorem Primary.run_ok : ∀ (p : Primary) {s : State} {b : Bool} {ts : List Token},
    s.expected = .term b → ts.map Token.lexeme = p.lexemes →
    ∃ e, s.run ts = .ok ⟨e, s.level, s.outer⟩ ∧ term? e = some p.tree
  | .group inner, s, b, ts, hs, hts => by
    obtain ⟨t, ts, rfl, ht, hts⟩ := List.map_eq_cons_iff.1 hts
    obtain ⟨us, vs, rfl, hus, hvs⟩ := List.map_eq_append_iff.1 hts
    obtain ⟨t', vs, rfl, ht', hvs⟩ := List.map_eq_cons_iff.1 hvs
    obtain rfl := List.map_eq_nil_iff.1 hvs
    have hopen : s.step t = .ok ⟨.term true, .fresh (some t.start), s.level :: s.outer⟩ := by
      simp only [step, hs, stepTerm, ht]
    obtain ⟨s', hrun, hs', hsame⟩ := inner.run_ok
      (s := ⟨.term true, .fresh (some t.start), s.level :: s.outer⟩) rfl rfl hus
    refine ⟨.connective inner.tree, ?_, rfl⟩
    rw [run_cons_ok hopen, run_append_ok hrun, run_cons_ok (step_closing hs' hsame.outer ht')]
    rfl
  | .operand a, s, b, ts, hs, hts => by
    obtain ⟨t, ts, rfl, ht, hts⟩ := List.map_eq_cons_iff.1 hts
    obtain rfl := List.map_eq_nil_iff.1 hts
    refine ⟨.relation a.operand, ?_, rfl⟩
    rw [run_cons_ok (step_operand a hs ht)]
    rfl
  | .comparison left r known right, s, b, ts, hs, hts => by
    obtain ⟨t, ts, rfl, ht, hts⟩ := List.map_eq_cons_iff.1 hts
    obtain ⟨t', ts, rfl, ht', hts⟩ := List.map_eq_cons_iff.1 hts
    obtain ⟨t'', ts, rfl, ht'', hts⟩ := List.map_eq_cons_iff.1 hts
    obtain rfl := List.map_eq_nil_iff.1 hts
    refine ⟨.connective (.compare r left.operand right.operand), ?_, rfl⟩
    have hrelation : State.step ⟨.relation left.operand, s.level, s.outer⟩ t'
        = .ok ⟨.comparand left.operand r, s.level, s.outer⟩ := by
      simp only [step, ht']
    have hright : State.step ⟨.comparand left.operand r, s.level, s.outer⟩ t''
        = .ok ⟨.connective (.compare r left.operand right.operand), s.level, s.outer⟩ := by
      simp only [step, ht'', right.writes.operandOf?]
    rw [run_cons_ok (step_operand left hs ht), run_cons_ok hrelation, run_cons_ok hright]
    rfl

end

/-- On the lexemes of a derivation the reader gives the tree of the derivation. -/
theorem parse_of_derivation (d : OrExpr) {ts : List Token}
    (hts : d.lexemes = ts.map Token.lexeme) (stop : Nat) : parse ts stop = .ok d.tree := by
  have hne : ts ≠ [] := by
    rintro rfl
    exact d.lexemes_ne_nil hts
  obtain ⟨s, hrun, hs, hsame⟩ := d.run_ok (s := .initial) rfl rfl hts.symm
  obtain ⟨term, hterm, htree⟩ := Option.map_eq_some_iff.1 hs
  have hfinish : s.finish stop = .ok d.tree := by
    rw [finish, hterm]
    simp only [hsame.opened, State.initial, Level.fresh, htree]
  have hempty : ts.isEmpty = false := List.isEmpty_eq_false_iff.2 hne
  simp only [parse, hempty, Bool.false_eq_true, if_false, hrun, hfinish]

end RowAlert.Condition
