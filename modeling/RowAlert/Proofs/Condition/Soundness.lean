import RowAlert.Proofs.Condition.Grammar
/-!
# RowAlert.Proofs.Condition.Soundness

**The reader accepts nothing but derivations.**

Whatever state the machine is in, what it holds spells the tokens it took (`State.Spells`): each
level holds the beginning of a chain, and the levels around it wait for their closing parentheses.
Every step keeps this (`Takes.spells`), so the condition that is read in the end has a derivation
with the lexemes of the text (`derivation_of_parse`).
-/

namespace RowAlert.Condition

open State

/-! ### Steps -/

/-- What a step can do. -/
inductive State.Takes (s : State) (t : Token) : State → Prop
  | not {b : Bool} (hs : s.expected = .term b) (ht : t.lexeme = .not) :
      Takes s t ⟨.term false, { s.level with negations := s.level.negations + 1 }, s.outer⟩
  | opening {b : Bool} (hs : s.expected = .term b) (ht : t.lexeme = .opening) :
      Takes s t ⟨.term true, .fresh (some t.start), s.level :: s.outer⟩
  | operand {b : Bool} {o : Operand} (hs : s.expected = .term b)
      (ht : operandOf? t.lexeme = some o) : Takes s t ⟨.relation o, s.level, s.outer⟩
  | relation {left : Operand} {r : Relation} (hs : s.expected = .relation left)
      (ht : t.lexeme = .relation r) : Takes s t ⟨.comparand left r, s.level, s.outer⟩
  | comparand {left right : Operand} {r : Relation} (hs : s.expected = .comparand left r)
      (ht : operandOf? t.lexeme = some right) :
      Takes s t ⟨.connective (.compare r left right), s.level, s.outer⟩
  | and {term : Condition} (hs : term? s.expected = some term) (ht : t.lexeme = .and) :
      Takes s t ⟨.term false, s.level.afterAnd term, s.outer⟩
  | or {term : Condition} (hs : term? s.expected = some term) (ht : t.lexeme = .or) :
      Takes s t ⟨.term false, s.level.afterOr term, s.outer⟩
  | closing {term : Condition} {level : Level} {outer : List Level}
      (hs : term? s.expected = some term) (ht : t.lexeme = .closing)
      (houter : s.outer = level :: outer) :
      Takes s t ⟨.connective (s.level.disjunction term), level, outer⟩

namespace State

theorem takes_of_stepTerm {s s' : State} {b : Bool} {t : Token} (hs : s.expected = .term b)
    (h : s.stepTerm b t = .ok s') : s.Takes t s' := by
  unfold stepTerm at h
  split at h
  · obtain rfl := Except.ok.inj h
    exact .not hs ‹_›
  · obtain rfl := Except.ok.inj h
    exact .opening hs ‹_›
  · cases h
  · split at h
    · obtain rfl := Except.ok.inj h
      exact .operand hs ‹_›
    · cases h

theorem takes_of_stepConnective {s s' : State} {term : Condition} {t : Token}
    (hs : term? s.expected = some term) (h : s.stepConnective term t = .ok s') : s.Takes t s' := by
  unfold stepConnective at h
  split at h
  · obtain rfl := Except.ok.inj h
    exact .and hs ‹_›
  · obtain rfl := Except.ok.inj h
    exact .or hs ‹_›
  · split at h
    · cases h
    · obtain rfl := Except.ok.inj h
      exact .closing hs ‹_› ‹_›
  · cases h

theorem takes_of_step {s s' : State} {t : Token} (h : s.step t = .ok s') : s.Takes t s' := by
  cases he : s.expected with
  | term opened =>
    simp only [step, he] at h
    exact takes_of_stepTerm he h
  | comparand left r =>
    simp only [step, he] at h
    split at h
    · obtain rfl := Except.ok.inj h
      exact .comparand he ‹_›
    · cases h
  | relation left =>
    simp only [step, he] at h
    split at h
    · obtain rfl := Except.ok.inj h
      exact .relation he ‹_›
    · exact takes_of_stepConnective (by rw [he]; rfl) h
  | connective term =>
    simp only [step, he] at h
    exact takes_of_stepConnective (by rw [he]; rfl) h

end State

/-! ### Longer chains -/

/-- A further alternative. -/
def OrRest.snoc : OrRest → AndExpr → OrRest
  | .done, last => .more last .done
  | .more next rest, last => .more next (rest.snoc last)

/-- A further alternative. -/
def OrExpr.snoc : OrExpr → AndExpr → OrExpr
  | .chain first rest, last => .chain first (rest.snoc last)

/-- A further requirement. -/
def AndRest.snoc : AndRest → NotExpr → AndRest
  | .done, last => .more last .done
  | .more next rest, last => .more next (rest.snoc last)

/-- A further requirement. -/
def AndExpr.snoc : AndExpr → NotExpr → AndExpr
  | .chain first rest, last => .chain first (rest.snoc last)

theorem OrRest.lexemes_snoc : ∀ (t : OrRest) (last : AndExpr),
    (t.snoc last).lexemes = t.lexemes ++ .or :: last.lexemes
  | .done, last => by simp [snoc, lexemes]
  | .more next rest, last => by simp [snoc, lexemes, rest.lexemes_snoc last]

theorem OrRest.treeFrom_snoc : ∀ (t : OrRest) (last : AndExpr) (left : Condition),
    (t.snoc last).treeFrom left = .or (t.treeFrom left) last.tree
  | .done, _, _ => rfl
  | .more next rest, last, left => rest.treeFrom_snoc last (.or left next.tree)

theorem OrExpr.lexemes_snoc (d : OrExpr) (last : AndExpr) :
    (d.snoc last).lexemes = d.lexemes ++ .or :: last.lexemes := by
  obtain ⟨first, rest⟩ := d
  simp [snoc, lexemes, rest.lexemes_snoc]

theorem OrExpr.tree_snoc (d : OrExpr) (last : AndExpr) :
    (d.snoc last).tree = .or d.tree last.tree := by
  obtain ⟨first, rest⟩ := d
  exact rest.treeFrom_snoc last first.tree

theorem AndRest.lexemes_snoc : ∀ (t : AndRest) (last : NotExpr),
    (t.snoc last).lexemes = t.lexemes ++ .and :: last.lexemes
  | .done, last => by simp [snoc, lexemes]
  | .more next rest, last => by simp [snoc, lexemes, rest.lexemes_snoc last]

theorem AndRest.treeFrom_snoc : ∀ (t : AndRest) (last : NotExpr) (left : Condition),
    (t.snoc last).treeFrom left = .and (t.treeFrom left) last.tree
  | .done, _, _ => rfl
  | .more next rest, last, left => rest.treeFrom_snoc last (.and left next.tree)

theorem AndExpr.lexemes_snoc (d : AndExpr) (last : NotExpr) :
    (d.snoc last).lexemes = d.lexemes ++ .and :: last.lexemes := by
  obtain ⟨first, rest⟩ := d
  simp [snoc, lexemes, rest.lexemes_snoc]

theorem AndExpr.tree_snoc (d : AndExpr) (last : NotExpr) :
    (d.snoc last).tree = .and d.tree last.tree := by
  obtain ⟨first, rest⟩ := d
  exact rest.treeFrom_snoc last first.tree

/-- A primary behind some NOTs. -/
def NotExpr.negated (p : Primary) : Nat → NotExpr
  | 0 => .primary p
  | n + 1 => .not (negated p n)

theorem NotExpr.lexemes_negated (p : Primary) (n : Nat) :
    (negated p n).lexemes = List.replicate n .not ++ p.lexemes := by
  induction n with
  | zero => rfl
  | succ n ih => rw [negated, lexemes, ih, List.replicate_succ, List.cons_append]

theorem NotExpr.tree_negated (p : Primary) (n : Nat) :
    (negated p n).tree = Level.negated n p.tree := by
  induction n with
  | zero => rfl
  | succ n ih => exact congrArg Condition.not ih

/-! ### What a state spells -/

/-- A pending left side of an `OR`, with its lexemes. -/
inductive PendingOr : Option Condition → List Lexeme → Prop
  | none : PendingOr none []
  | some (d : OrExpr) : PendingOr (some d.tree) (d.lexemes ++ [.or])

/-- A pending left side of an `AND`, with its lexemes. -/
inductive PendingAnd : Option Condition → List Lexeme → Prop
  | none : PendingAnd none []
  | some (d : AndExpr) : PendingAnd (some d.tree) (d.lexemes ++ [.and])

/-- What is pending on a level, with its lexemes. -/
inductive Level.Spells : Level → List Lexeme → Prop
  | pending {disjunct conjunct : Option Condition} {n : Nat} {opened : Option Nat}
      {ls ms : List Lexeme} (hls : PendingOr disjunct ls) (hms : PendingAnd conjunct ms) :
      Spells ⟨disjunct, conjunct, n, opened⟩ (ls ++ (ms ++ List.replicate n .not))

/-- The beginning of a term, with its lexemes. -/
inductive Expected.Spells : Expected → List Lexeme → Prop
  | term (b : Bool) : Spells (.term b) []
  | comparand (left : Atom) {r : Relation} (known : r ∈ Relation.all) :
      Spells (.comparand left.operand r) [left.lexeme, .relation r]
  | relation (left : Atom) : Spells (.relation left.operand) [left.lexeme]
  | connective (p : Primary) : Spells (.connective p.tree) p.lexemes

/-- The levels around one that was opened at a place, with their lexemes: the outermost level was
not opened, and every other one stands behind an opening parenthesis. -/
inductive Around : List Level → Option Nat → List Lexeme → Prop
  | outermost : Around [] none []
  | inside {level : Level} {outer : List Level} {start : Nat} {ls ms : List Lexeme}
      (hls : Around outer level.opened ls) (hms : level.Spells ms) :
      Around (level :: outer) (some start) (ls ++ (ms ++ [.opening]))

/-- The lexemes behind a state. -/
def State.Spells (s : State) (ls : List Lexeme) : Prop :=
  ∃ around level term, Around s.outer s.level.opened around ∧ s.level.Spells level ∧
    s.expected.Spells term ∧ ls = around ++ (level ++ term)

theorem spells_initial : State.initial.Spells [] :=
  ⟨[], [], [], .outermost, .pending .none .none, .term false, rfl⟩

/-- A complete term is a primary. -/
theorem Expected.Spells.primary {e : Expected} {ls : List Lexeme} {term : Condition}
    (h : e.Spells ls) (hterm : term? e = some term) :
    ∃ p : Primary, p.tree = term ∧ p.lexemes = ls := by
  cases h with
  | term b => cases hterm
  | comparand left known => cases hterm
  | relation left => exact ⟨.operand left, Option.some.inj hterm, rfl⟩
  | connective p => exact ⟨p, Option.some.inj hterm, rfl⟩

/-- With a term, what is pending of an `AND` is a chain. -/
theorem PendingAnd.chain {conjunct : Option Condition} {ms : List Lexeme}
    (h : PendingAnd conjunct ms) (p : Primary) (disjunct : Option Condition) (n : Nat)
    (opened : Option Nat) :
    ∃ d : AndExpr, d.tree = Level.conjunction ⟨disjunct, conjunct, n, opened⟩ p.tree ∧
      d.lexemes = ms ++ (List.replicate n .not ++ p.lexemes) := by
  cases h with
  | none =>
    refine ⟨.chain (.negated p n) .done, NotExpr.tree_negated p n, ?_⟩
    rw [AndExpr.lexemes, AndRest.lexemes, List.append_nil, NotExpr.lexemes_negated, List.nil_append]
  | some d =>
    refine ⟨d.snoc (.negated p n), ?_, ?_⟩
    · rw [AndExpr.tree_snoc, NotExpr.tree_negated]
      rfl
    · rw [AndExpr.lexemes_snoc, NotExpr.lexemes_negated, List.append_assoc, List.singleton_append]

/-- With a chain of requirements, what is pending of an `OR` is a chain. -/
theorem PendingOr.chain {disjunct : Option Condition} {ls : List Lexeme}
    (h : PendingOr disjunct ls) (last : AndExpr) :
    ∃ d : OrExpr, d.lexemes = ls ++ last.lexemes ∧
      d.tree = disjunct.elim last.tree fun left => .or left last.tree := by
  cases h with
  | none => exact ⟨.chain last .done, by rw [OrExpr.lexemes, OrRest.lexemes, List.append_nil]; rfl, rfl⟩
  | some d =>
    refine ⟨d.snoc last, ?_, d.tree_snoc last⟩
    rw [OrExpr.lexemes_snoc, List.append_assoc, List.singleton_append]

/-- With a term, a level is what it reads so far. -/
theorem Level.Spells.chain {l : Level} {ls : List Lexeme} (h : l.Spells ls) (p : Primary) :
    ∃ d : OrExpr, d.tree = l.disjunction p.tree ∧ d.lexemes = ls ++ p.lexemes := by
  obtain ⟨hls, hms⟩ := h
  rename_i disjunct conjunct n opened ls ms
  obtain ⟨last, hlast, hlexemes⟩ := hms.chain p disjunct n opened
  obtain ⟨d, hd, htree⟩ := hls.chain last
  refine ⟨d, ?_, ?_⟩
  · rw [htree, hlast]
    cases disjunct <;> rfl
  · rw [hd, hlexemes, List.append_assoc, List.append_assoc]

/-- Every step spells its lexeme. -/
theorem State.Takes.spells {s s' : State} {t : Token} {ls : List Lexeme} (h : s.Takes t s')
    (ht : t.lexeme.Proper) (hs : s.Spells ls) : s'.Spells (ls ++ [t.lexeme]) := by
  obtain ⟨around, level, term, haround, hlevel, hterm, rfl⟩ := hs
  obtain ⟨e, ⟨disjunct, conjunct, n, opened⟩, outer⟩ := s
  dsimp only at haround hlevel hterm
  -- Behind a NOT, a parenthesis or an operand the beginning of the term grows. A connective takes the
  -- term into its level first, and a closing parenthesis the level into the one around it.
  cases h with
  | not he hl =>
    obtain rfl := he
    cases hterm
    obtain ⟨hls, hms⟩ := hlevel
    refine ⟨_, _, _, haround, .pending hls hms, .term false, ?_⟩
    simp [hl, List.replicate_succ']
  | opening he hl =>
    obtain rfl := he
    cases hterm
    refine ⟨_, _, _, .inside haround hlevel, .pending .none .none, .term true, ?_⟩
    simp [hl]
  | operand he ho =>
    obtain rfl := he
    cases hterm
    refine ⟨_, _, _, haround, hlevel, .relation ⟨_, _, writes_of_operandOf? ht ho⟩, ?_⟩
    simp
  | relation he hl =>
    obtain rfl := he
    rw [hl] at ht ⊢
    cases hterm with
    | relation a =>
      refine ⟨_, _, _, haround, hlevel, .comparand a ht, ?_⟩
      simp
  | comparand he ho =>
    obtain rfl := he
    have hright := writes_of_operandOf? ht ho
    cases hterm with
    | comparand a known =>
      refine ⟨_, _, _, haround, hlevel, .connective (.comparison a _ known ⟨_, _, hright⟩), ?_⟩
      simp [Primary.lexemes]
  | and he hl =>
    obtain ⟨p, rfl, rfl⟩ := hterm.primary he
    obtain ⟨hls, hms⟩ := hlevel
    obtain ⟨d, hd, hlexemes⟩ := hms.chain p disjunct n opened
    refine ⟨_, _, _, haround, .pending hls (hd ▸ PendingAnd.some d), .term false, ?_⟩
    simp [hl, hlexemes]
  | or he hl =>
    obtain ⟨p, rfl, rfl⟩ := hterm.primary he
    obtain ⟨d, hd, hlexemes⟩ := hlevel.chain p
    refine ⟨_, _, _, haround, .pending (hd ▸ PendingOr.some d) .none, .term false, ?_⟩
    simp [hl, hlexemes]
  | closing he hl houter =>
    obtain rfl := houter
    obtain ⟨p, rfl, rfl⟩ := hterm.primary he
    obtain ⟨d, hd, hlexemes⟩ := hlevel.chain p
    cases haround with
    | inside hls hms =>
      rw [← hd]
      refine ⟨_, _, _, hls, hms, .connective (.group d), ?_⟩
      simp [hl, hlexemes, Primary.lexemes]

/-- A run spells its lexemes. -/
theorem State.spells_of_run {s s' : State} {ts : List Token} {ls : List Lexeme}
    (h : s.run ts = .ok s') (hts : ∀ t ∈ ts, t.lexeme.Proper) (hs : s.Spells ls) :
    s'.Spells (ls ++ ts.map Token.lexeme) := by
  -- The lexemes so far are generalized: every step puts its own behind them.
  induction ts generalizing s ls with
  | nil =>
    obtain rfl := Except.ok.inj h
    rwa [List.map_nil, List.append_nil]
  | cons t ts ih =>
    rw [run, List.foldlM_cons] at h
    cases hstep : s.step t with
    | error refusal => rw [hstep] at h; cases h
    | ok next =>
      rw [hstep] at h
      have hnext := (takes_of_step hstep).spells (hts t List.mem_cons_self) hs
      have hspells := ih h (fun u hu => hts u (List.mem_cons_of_mem t hu)) hnext
      rwa [List.append_assoc] at hspells

/-- The condition that a state gives has a derivation with the lexemes behind the state. -/
theorem State.derivation_of_finish {s : State} {stop : Nat} {c : Condition} {ls : List Lexeme}
    (h : s.finish stop = .ok c) (hs : s.Spells ls) : ∃ d : OrExpr, d.lexemes = ls ∧ d.tree = c := by
  obtain ⟨around, level, term, haround, hlevel, hterm, rfl⟩ := hs
  obtain ⟨e, l, outer⟩ := s
  unfold finish at h
  split at h
  · cases h
  · split at h
    · cases h
    · rename_i hopened
      obtain rfl := Except.ok.inj h
      obtain ⟨p, rfl, rfl⟩ := hterm.primary ‹_›
      obtain ⟨d, hd, hlexemes⟩ := hlevel.chain p
      -- Outside every parenthesis no level is around.
      dsimp only at hopened haround
      rw [hopened] at haround
      cases haround
      exact ⟨d, hlexemes, hd⟩

/-- What is read from tokens has a derivation with their lexemes. -/
theorem derivation_of_parse {ts : List Token} {stop : Nat} {c : Condition}
    (h : parse ts stop = .ok c) (hts : ∀ t ∈ ts, t.lexeme.Proper) :
    ∃ d : OrExpr, d.lexemes = ts.map Token.lexeme ∧ d.tree = c := by
  unfold parse at h
  split at h
  · cases h
  · split at h
    · cases h
    · split at h
      · cases h
      · obtain rfl := Except.ok.inj h
        exact derivation_of_finish ‹_› (spells_of_run ‹_› hts spells_initial)

end RowAlert.Condition
