import RowAlert.Proofs.Condition.Compiling
import RowAlert.Proofs.Condition.Descent
/-!
# RowAlert.Proofs.Condition.Simulation

**Descent and the machine read the same.**

The machine that takes one token at a time goes along with the functions that call each other: when a
phrase has been read, what the machine makes of the remaining tokens is what it made of all of them
(`Follows`), and the phrase is what it has pending; when a phrase is refused, so are all the tokens.
Hence both give one answer to tokens that some text has (`meets_descend`), and descent fails in no other
way on a text (`readText_eq_compile`).
-/

namespace RowAlert.Condition.Descent

open State

variable {ts : List Token} {stop : Nat}

/-! ### The machine from a place on -/

/-- What the machine makes of the tokens from a place on. -/
def resume (ts : List Token) (stop : Nat) (s : State) (i : Nat) : Except Refusal Condition :=
  s.run (ts.drop i) >>= fun s' => s'.finish stop

theorem resume_of_step {s s' : State} {i : Nat} {t : Token} (ht : ts[i]? = some t)
    (h : s.step t = .ok s') : resume ts stop s i = resume ts stop s' (i + 1) := by
  obtain ⟨hi, rfl⟩ := List.getElem?_eq_some_iff.1 ht
  rw [resume, List.drop_eq_getElem_cons hi, run_cons_ok h]
  rfl

theorem resume_of_refusal {s : State} {i : Nat} {t : Token} {refusal : Refusal}
    (ht : ts[i]? = some t) (h : s.step t = .error refusal) :
    resume ts stop s i = .error refusal := by
  obtain ⟨hi, rfl⟩ := List.getElem?_eq_some_iff.1 ht
  rw [resume, List.drop_eq_getElem_cons hi, run, List.foldlM_cons, h]
  rfl

theorem resume_at_end {s : State} {i : Nat} (h : ts[i]? = none) :
    resume ts stop s i = s.finish stop := by
  rw [resume, List.drop_eq_nil_of_le (List.getElem?_eq_none_iff.1 h)]
  rfl

/-! ### Rules -/

/-- The machine, in a state at a place, goes along with a reading. What is returned leaves it in a
state that `done` describes; what is refused, it refuses. -/
def Follows (ts : List Token) (stop : Nat) (s : State) (i : Nat)
    (r : EStateM.Result Failure Progress α) (done : α → Nat → State → Prop) : Prop :=
  Meets r
    (fun a p => ∃ s', resume ts stop s i = resume ts stop s' p.place ∧ done a p.place s')
    (fun e _ => ∀ refusal, e = .refused refusal → resume ts stop s i = .error refusal)

section

variable {α β : Type} {m : Reading α} {f : α → Reading β} {p : Progress} {s s' : State} {i j : Nat}
  {done : β → Nat → State → Prop}

theorem Follows.from {r : EStateM.Result Failure Progress β}
    (h : resume ts stop s i = resume ts stop s' j) (hr : Follows ts stop s' j r done) :
    Follows ts stop s i r done := by
  refine hr.mono ?_ ?_
  · intro a p ⟨s'', hs'', hdone⟩
    exact ⟨s'', h.trans hs'', hdone⟩
  · intro e p he refusal heq
    exact h.trans (he refusal heq)

theorem Follows.imp {r : EStateM.Result Failure Progress β} {done' : β → Nat → State → Prop}
    (hr : Follows ts stop s i r done) (h : ∀ b j s', done b j s' → done' b j s') :
    Follows ts stop s i r done' := by
  refine hr.mono ?_ fun _ _ he => he
  intro b p ⟨s', hs', hdone⟩
  exact ⟨s', hs', h b p.place s' hdone⟩

theorem Follows.return {b : β} (h : done b p.place s) :
    Follows ts stop s p.place ((pure b : Reading β) p) done :=
  ⟨s, rfl, h⟩

theorem Follows.refuse {refusal : Refusal} (h : resume ts stop s i = .error refusal) :
    Follows ts stop s i ((throw (.refused refusal) : Reading β) p) done := by
  intro refusal' heq
  obtain rfl := Failure.refused.inj heq
  exact h

theorem Follows.bind {first : α → Nat → State → Prop} (hm : Follows ts stop s i (m p) first)
    (hf : ∀ a p' s', first a p'.place s' → Follows ts stop s' p'.place (f a p') done) :
    Follows ts stop s i ((m >>= f) p) done := by
  refine meets_bind.2 (Meets.mono hm ?_ fun _ _ he => he)
  intro a p' ⟨s', hs', hfirst⟩
  exact Follows.from hs' (hf a p' s' hfirst)

theorem Follows.visit {m : Reading β} {callee : Callee} (h : Follows ts stop s i (m p) done) :
    Follows ts stop s i (visit callee m p) done := by
  unfold Descent.visit
  cases hr : m p with
  | ok a p' =>
    rw [hr] at h
    exact h
  | error e p' =>
    rw [hr] at h
    exact h

theorem Follows.current {g : Option Token → Reading β}
    (h : Follows ts stop s i (g ts[p.place]? p) done) :
    Follows ts stop s i ((current ts >>= g) p) done := by
  rcases Nat.lt_or_ge ts.length p.place with hlt | hle
  · refine meets_bind.2 ?_
    rw [current_outside hlt]
    intro refusal heq
    cases heq
  · rwa [bind_ok (current_eq hle)]

theorem Follows.advance {g : Option Token → Reading β}
    (h : Follows ts stop s i (g ts[p.place]? p.next) done) :
    Follows ts stop s i ((advance ts >>= g) p) done := by
  rw [Descent.advance, bind_assoc]
  exact Follows.current h

theorem Follows.accept {connective : Lexeme} {g : Bool → Reading β}
    (htaken : ∀ t, ts[p.place]? = some t → t.lexeme = connective →
      Follows ts stop s i (g true p.next) done)
    (hother : (∀ t, ts[p.place]? = some t → t.lexeme ≠ connective) →
      Follows ts stop s i (g false p) done) :
    Follows ts stop s i ((accept ts connective >>= g) p) done := by
  rw [Descent.accept, bind_assoc]
  refine Follows.current ?_
  by_cases h : ts[p.place]?.map Token.lexeme = some connective
  · obtain ⟨t, ht, hlexeme⟩ := Option.map_eq_some_iff.1 h
    rw [if_pos h]
    exact htaken t ht hlexeme
  · rw [if_neg h]
    refine hother ?_
    intro t ht hlexeme
    exact h (by rw [ht, Option.map_some, hlexeme])

end

/-! ### Operands -/

/-- The token at a place is none of some lexemes. -/
def Lacks (ts : List Token) (i : Nat) (ls : List Lexeme) : Prop :=
  ∀ t, ts[i]? = some t → t.lexeme ∉ ls

/-- A term may start at the place; the state has it open what comes first. -/
def AwaitsTerm (ts : List Token) (s : State) (i : Nat) : Prop :=
  ∃ b, s.expected = .term b ∧ (b = true → Lacks ts i [.closing])

/-- The machine does not take a relation at the place. -/
def TakesNoRelation (ts : List Token) (s : State) (i : Nat) : Prop :=
  ∀ t r left, ts[i]? = some t → t.lexeme = .relation r → s.expected ≠ .relation left

theorem notOperandAt_eq {t : Token} (ht : t.lexeme.Proper) :
    notOperandAt stop (some t) = notOperand t := by
  obtain ⟨lexeme, start, stop'⟩ := t
  cases lexeme with
  | relation r =>
    have hr : r ∈ Relation.all := ht
    simp only [notOperandAt, notOperand, hr, if_true]
  | _ => rfl

/-- An operand is read where the machine takes operands and nothing else. -/
theorem follows_operand {p : Progress} {s : State} (next : Operand → State)
    (hproper : ∀ t ∈ ts, t.lexeme.Proper) (hend : term? s.expected = none)
    (hstep : ∀ t, ts[p.place]? = some t → s.step t =
      match operandOf? t.lexeme with
      | some o => .ok (next o)
      | none => .error (notOperand t)) :
    Follows ts stop s p.place (operand ts stop p)
      (fun o i s' => i = p.place + 1 ∧ s' = next o) := by
  refine Follows.visit (Follows.current ?_)
  cases hentry : ts[p.place]? with
  | none =>
    refine Follows.refuse ?_
    rw [resume_at_end hentry, finish, hend]
    rfl
  | some t =>
    have ht := hproper t (List.mem_of_getElem? hentry)
    have hstep := hstep t hentry
    rw [Option.map_some]
    cases hlexeme : t.lexeme with
    | number written =>
      rw [hlexeme] at ht hstep
      obtain ⟨x, hx⟩ := Option.isSome_iff_exists.1 ht
      refine Follows.from (resume_of_step hentry hstep) (Follows.advance ?_)
      simp only [numberOf, hx, Option.getD_some]
      exact Follows.return (p := p.next) ⟨rfl, rfl⟩
    | text content =>
      rw [hlexeme] at hstep
      refine Follows.from (resume_of_step hentry hstep) (Follows.advance ?_)
      exact Follows.return (p := p.next) ⟨rfl, rfl⟩
    | word name =>
      rw [hlexeme] at hstep
      refine Follows.from (resume_of_step hentry hstep) (Follows.advance ?_)
      exact Follows.return (p := p.next) ⟨rfl, rfl⟩
    | _ =>
      refine Follows.refuse ?_
      rw [notOperandAt_eq ht]
      refine resume_of_refusal hentry ?_
      rw [hstep, hlexeme]
      rfl

/-! ### Primaries -/

/-- Behind a term the machine goes on with the level, if it takes no relation. -/
theorem step_of_takesNoRelation {s : State} {term : Condition} {i : Nat} {t : Token}
    (hterm : term? s.expected = some term) (hrelation : TakesNoRelation ts s i)
    (ht : ts[i]? = some t) : s.step t = s.stepConnective term t := by
  by_cases h : ∃ r, t.lexeme = .relation r
  · obtain ⟨r, hr⟩ := h
    cases he : s.expected with
    | relation left => exact absurd he (hrelation t r left ht hr)
    | connective c =>
      rw [he] at hterm
      obtain rfl := Option.some.inj hterm
      simp only [step, he]
    | _ => rw [he] at hterm; cases hterm
  · exact step_behind_term hterm fun r hr => h ⟨r, hr⟩

/-- A term was read, and the levels are as they were. -/
structure TermRead (ts : List Token) (s : State) (c : Condition) (i : Nat) (s' : State) : Prop where
  term : term? s'.expected = some c
  level : s'.level = s.level
  outer : s'.outer = s.outer
  noRelation : TakesNoRelation ts s' i

theorem step_of_awaitsTerm {s : State} {i : Nat} {t : Token} (hs : AwaitsTerm ts s i)
    (hlacks : Lacks ts i [.not, .opening]) (ht : ts[i]? = some t) :
    s.step t =
      match operandOf? t.lexeme with
      | some o => .ok { s with expected := .relation o }
      | none => .error (notOperand t) := by
  obtain ⟨b, hb, hclosing⟩ := hs
  have hlexeme := hlacks t ht
  simp only [step, hb, stepTerm]
  cases hl : t.lexeme with
  | not => simp [hl] at hlexeme
  | opening => simp [hl] at hlexeme
  | closing =>
    cases b with
    | true => exact absurd (by simp [hl]) (hclosing rfl t ht)
    | false => simp [operandOf?, notOperand, hl]
  | _ => rfl

theorem follows_comparison {p : Progress} {s : State} (hproper : ∀ t ∈ ts, t.lexeme.Proper)
    (hs : AwaitsTerm ts s p.place) (hlacks : Lacks ts p.place [.not, .opening]) :
    Follows ts stop s p.place (comparison ts stop p) (TermRead ts s) := by
  obtain ⟨b, hb, -⟩ := id hs
  refine Follows.bind (follows_operand (fun left => { s with expected := .relation left }) hproper
    (by rw [hb]; rfl) fun t ht => step_of_awaitsTerm hs hlacks ht) ?_
  intro left p' s' ⟨_, hs'⟩
  subst hs'
  refine Follows.current ?_
  cases hrelation : relationAt? ts[p'.place]? with
  | none =>
    refine Follows.return ⟨rfl, rfl, rfl, ?_⟩
    intro t r left ht hlexeme
    have hr : r ∈ Relation.all := by
      have htp := hproper t (List.mem_of_getElem? ht)
      rwa [hlexeme] at htp
    obtain ⟨lexeme, start, stop'⟩ := t
    obtain rfl : lexeme = .relation r := hlexeme
    simp [ht, relationAt?, hr] at hrelation
  | some r =>
    obtain ⟨t, ht, hlexeme⟩ : ∃ t, ts[p'.place]? = some t ∧ t.lexeme = .relation r := by
      cases ht : ts[p'.place]? with
      | none => rw [ht] at hrelation; cases hrelation
      | some t =>
        obtain ⟨lexeme, start, stop'⟩ := t
        rw [ht] at hrelation
        cases lexeme <;> simp_all [relationAt?]
    have hstep : State.step { s with expected := .relation left } t
        = .ok { s with expected := .comparand left r } := by
      simp only [step, hlexeme]
    refine Follows.from (resume_of_step ht hstep) (Follows.advance ?_)
    refine Follows.bind (follows_operand (p := p'.next)
      (fun right => { s with expected := .connective (.compare r left right) }) hproper rfl ?_) ?_
    · intro u _
      cases hright : operandOf? u.lexeme <;> simp only [step, hright]
    · intro right p'' s'' ⟨_, hs''⟩
      subst hs''
      exact Follows.return ⟨rfl, rfl, rfl, fun _ _ _ _ _ h => nomatch h⟩

/-! ### Chains -/

/-- Behind a connective the machine is in a state from which another side joins what was read. -/
def GoesOn (ts : List Token) (stop : Nat) (connective : Lexeme)
    (join : Condition → Condition → Condition) (side : Reading Condition)
    (done : Condition → Nat → State → Prop) : Prop :=
  ∀ (c : Condition) (p : Progress) (s : State) (t : Token), done c p.place s →
    ts[p.place]? = some t → t.lexeme = connective →
    ∃ s', s.step t = .ok s' ∧
      Follows ts stop s' p.next.place (side p.next) fun c' => done (join c c')

theorem follows_chainFrom {connective : Lexeme} {join : Condition → Condition → Condition}
    {side : Reading Condition} {done : Condition → Nat → State → Prop}
    (hnext : GoesOn ts stop connective join side done) {rounds : Nat} {left : Condition}
    {p : Progress} {s : State} (hs : done left p.place s) :
    Follows ts stop s p.place (chainFrom ts connective join side rounds left p)
      (fun c i s' => done c i s' ∧ Lacks ts i [connective]) := by
  induction rounds generalizing left p s with
  | zero =>
    intro refusal heq
    cases heq
  | succ rounds ih =>
    refine Follows.accept ?_ ?_
    · intro t ht hlexeme
      obtain ⟨s', hstep, hside⟩ := hnext left p s t hs ht hlexeme
      refine Follows.from (resume_of_step ht hstep) (hside.bind ?_)
      intro right p' s'' hs''
      exact ih hs''
    · intro hother
      refine Follows.return ⟨hs, ?_⟩
      intro t ht hmem
      exact hother t ht (List.mem_singleton.1 hmem)

theorem follows_chain {connective : Lexeme} {join : Condition → Condition → Condition}
    {side : Reading Condition} {done : Condition → Nat → State → Prop} {p : Progress} {s : State}
    (hfirst : Follows ts stop s p.place (side p) done)
    (hnext : GoesOn ts stop connective join side done) :
    Follows ts stop s p.place (chain ts connective join side p)
      (fun c i s' => done c i s' ∧ Lacks ts i [connective]) :=
  hfirst.bind fun _ _ _ hs' => follows_chainFrom hnext hs'

/-! ### Phrases -/

/-- Requirements were read, behind those that were pending. -/
structure RequirementRead (ts : List Token) (s : State) (c : Condition) (i : Nat) (s' : State) :
    Prop where
  requirement : s'.requirement? = some c
  disjunct : s'.level.disjunct = s.level.disjunct
  same : SameLevel s s'
  noRelation : TakesNoRelation ts s' i

/-- Alternatives were read, behind those that were pending. -/
structure AlternativeRead (ts : List Token) (s : State) (c : Condition) (i : Nat) (s' : State) :
    Prop where
  alternative : s'.alternative? = some c
  same : SameLevel s s'
  noRelation : TakesNoRelation ts s' i
  noAnd : Lacks ts i [.and]

/-- A term was read, with its negations behind those that were pending. -/
structure NegationRead (ts : List Token) (s : State) (c : Condition) (i : Nat) (s' : State) :
    Prop where
  term : ∃ term, term? s'.expected = some term ∧
    Level.negated s'.level.negations term = Level.negated s.level.negations c
  level : s'.level = { s.level with negations := s'.level.negations }
  outer : s'.outer = s.outer
  noRelation : TakesNoRelation ts s' i

/-- What a state is when a phrase is to be read at a place. -/
def Ready (ts : List Token) : Phrase → State → Nat → Prop
  | .orExpr, s, i => AwaitsTerm ts s i ∧ s.level = .fresh s.level.opened
  | .andExpr, s, i => AwaitsTerm ts s i ∧ s.level.conjunct = none ∧ s.level.negations = 0
  | .notExpr, s, i => AwaitsTerm ts s i
  | .primary, s, i => AwaitsTerm ts s i ∧ Lacks ts i [.not]

/-- What becomes of a state when a phrase was read. -/
def Done (ts : List Token) : Phrase → State → Condition → Nat → State → Prop
  | .orExpr, s, c, i, s' => AlternativeRead ts s c i s' ∧ Lacks ts i [.or]
  | .andExpr, s, c, i, s' => RequirementRead ts s c i s' ∧ Lacks ts i [.and]
  | .notExpr, s, c, i, s' => NegationRead ts s c i s'
  | .primary, s, c, i, s' => TermRead ts s c i s'

theorem awaitsTerm_of_false {s : State} {i : Nat} (h : s.expected = .term false) :
    AwaitsTerm ts s i :=
  ⟨false, h, fun hopened => nomatch hopened⟩

/-- Behind alternatives there is nothing that the level could go on with but its closing parenthesis. -/
theorem step_behind_alternative {s s' : State} {c : Condition} {i : Nat} {t : Token}
    (h : Done ts .orExpr s c i s') (ht : ts[i]? = some t)
    (hclosing : t.lexeme = .closing → s'.outer = []) : s'.step t = .error (cannotFollow s'.level t) := by
  obtain ⟨⟨halternative, -, hrelation, hand⟩, hor⟩ := h
  obtain ⟨term, hterm, -⟩ := Option.map_eq_some_iff.1 halternative
  rw [step_of_takesNoRelation hterm hrelation ht, stepConnective]
  cases hlexeme : t.lexeme with
  | and => exact absurd (by rw [hlexeme]; exact List.mem_singleton_self _) (hand t ht)
  | or => exact absurd (by rw [hlexeme]; exact List.mem_singleton_self _) (hor t ht)
  | closing => simp only [hclosing hlexeme]
  | _ => rfl

section

variable {p : Progress} {s : State}

theorem follows_group {inner : Reading Condition} {t : Token} (ht : ts[p.place]? = some t)
    (hlexeme : t.lexeme = .opening) (hs : AwaitsTerm ts s p.place)
    (hinner : ∀ s', Ready ts .orExpr s' p.next.place →
      Follows ts stop s' p.next.place (inner p.next) (Done ts .orExpr s')) :
    Follows ts stop s p.place (group ts stop inner p) (TermRead ts s) := by
  obtain ⟨b, hb, -⟩ := hs
  have hopen : s.step t = .ok ⟨.term true, .fresh (some t.start), s.level :: s.outer⟩ := by
    simp only [step, hb, stepTerm, hlexeme]
  refine Follows.from (resume_of_step ht hopen) (Follows.advance (Follows.current ?_))
  rw [ht]
  split
  · rename_i hclosing
    obtain ⟨u, hu, hclosing⟩ := Option.map_eq_some_iff.1 hclosing
    refine Follows.refuse ?_
    rw [hu]
    refine resume_of_refusal hu ?_
    simp only [step, stepTerm, hclosing, if_true]
    rfl
  · rename_i hclosing
    refine (hinner _ ⟨⟨true, rfl, ?_⟩, rfl⟩).bind ?_
    · intro _ u hu hmem
      exact hclosing (by rw [hu, Option.map_some, List.mem_singleton.1 hmem])
    intro c p' s' hdone
    obtain ⟨⟨halternative, hsame, -, -⟩, -⟩ := id hdone
    refine Follows.current ?_
    split
    · rename_i hclosing'
      obtain ⟨u, hu, hclosing'⟩ := Option.map_eq_some_iff.1 hclosing'
      refine Follows.from (resume_of_step hu (step_closing halternative hsame.outer hclosing'))
        (Follows.advance ?_)
      exact Follows.return (p := p'.next) ⟨rfl, rfl, rfl, fun _ _ _ _ _ h => nomatch h⟩
    · rename_i hclosing'
      refine Follows.refuse ?_
      cases hu : ts[p'.place]? with
      | none =>
        obtain ⟨term, hterm, -⟩ := Option.map_eq_some_iff.1 halternative
        rw [resume_at_end hu, finish, hterm]
        simp only [hsame.opened]
        rfl
      | some u =>
        have hne : u.lexeme ≠ .closing := by
          intro heq
          exact hclosing' (by rw [hu, Option.map_some, heq])
        rw [resume_of_refusal hu (step_behind_alternative hdone hu fun h => absurd h hne),
          cannotFollow, hsame.opened]
        rfl

theorem follows_primary {part : Phrase → Reading Condition} (hproper : ∀ t ∈ ts, t.lexeme.Proper)
    (hs : Ready ts .primary s p.place)
    (hpart : ∀ s', Ready ts .orExpr s' p.next.place →
      Follows ts stop s' p.next.place (part .orExpr p.next) (Done ts .orExpr s')) :
    Follows ts stop s p.place (body ts stop part .primary p) (Done ts .primary s) := by
  obtain ⟨hterm, hnot⟩ := hs
  refine Follows.current ?_
  split
  · rename_i hopening
    obtain ⟨t, ht, hlexeme⟩ := Option.map_eq_some_iff.1 hopening
    exact follows_group ht hlexeme hterm hpart
  · rename_i hopening
    refine follows_comparison hproper hterm ?_
    intro t ht hmem
    rcases List.mem_cons.1 hmem with heq | hmem
    · exact hnot t ht (by rw [heq]; exact List.mem_singleton_self _)
    · exact hopening (by rw [ht, Option.map_some, List.mem_singleton.1 hmem])

theorem follows_notExpr {part : Phrase → Reading Condition} (hs : Ready ts .notExpr s p.place)
    (hinner : ∀ s', Ready ts .notExpr s' p.next.place →
      Follows ts stop s' p.next.place (part .notExpr p.next) (Done ts .notExpr s'))
    (hother : Ready ts .primary s p.place →
      Follows ts stop s p.place (part .primary p) (Done ts .primary s)) :
    Follows ts stop s p.place (body ts stop part .notExpr p) (Done ts .notExpr s) := by
  refine Follows.accept ?_ ?_
  · intro t ht hlexeme
    obtain ⟨b, hb, -⟩ := hs
    have hstep : s.step t = .ok ⟨.term false,
        { s.level with negations := s.level.negations + 1 }, s.outer⟩ := by
      simp only [step, hb, stepTerm, hlexeme]
    refine Follows.from (resume_of_step ht hstep) ((hinner _ (awaitsTerm_of_false rfl)).bind ?_)
    intro c p' s' ⟨⟨term, hterm, hnegated⟩, hlevel, houter, hrelation⟩
    refine Follows.return ⟨⟨term, hterm, ?_⟩, hlevel, houter, hrelation⟩
    rw [hnegated, Level.negated_not]
  · intro hnot
    refine (hother ⟨hs, ?_⟩).imp ?_
    · intro t ht hmem
      exact hnot t ht (List.mem_singleton.1 hmem)
    · intro c i s' ⟨hterm, hlevel, houter, hrelation⟩
      exact ⟨⟨c, hterm, by rw [hlevel]⟩, by rw [hlevel], houter, hrelation⟩

/-- The first requirement, or one behind an AND. -/
theorem requirementRead_of_negationRead {c c' : Condition} {i : Nat} {s' : State}
    (h : NegationRead ts s c i s') (hnegations : s.level.negations = 0)
    (hc : match s.level.conjunct with
      | some left => .and left c = c'
      | none => c = c') : RequirementRead ts s c' i s' := by
  obtain ⟨⟨term, hterm, hnegated⟩, hlevel, houter, hrelation⟩ := h
  rw [hnegations] at hnegated
  have hconjunct : s'.level.conjunct = s.level.conjunct := by rw [hlevel]
  refine ⟨?_, by rw [hlevel], ⟨by rw [hlevel], houter⟩, hrelation⟩
  cases hleft : s.level.conjunct with
  | none =>
    rw [hleft] at hc hconjunct
    rw [requirement?_first hterm hconjunct, hnegated, ← hc]
    rfl
  | some left =>
    rw [hleft] at hc hconjunct
    rw [requirement?_next hterm hconjunct, hnegated, ← hc]
    rfl

theorem follows_andExpr {part : Phrase → Reading Condition} (hs : Ready ts .andExpr s p.place)
    (hpart : ∀ p' s', Ready ts .notExpr s' p'.place →
      Follows ts stop s' p'.place (part .notExpr p') (Done ts .notExpr s')) :
    Follows ts stop s p.place (body ts stop part .andExpr p) (Done ts .andExpr s) := by
  obtain ⟨hterm, hconjunct, hnegations⟩ := hs
  refine follows_chain ((hpart p s hterm).imp ?_) ?_
  · intro c i s' hread
    exact requirementRead_of_negationRead hread hnegations (by rw [hconjunct])
  · intro left q s' t hleft ht hlexeme
    refine ⟨_, step_and hleft.requirement hlexeme,
      (hpart q.next _ (awaitsTerm_of_false rfl)).imp ?_⟩
    intro c i s'' hread
    obtain ⟨hrequirement, hdisjunct, hsame, hrelation⟩ :=
      requirementRead_of_negationRead hread rfl rfl
    exact ⟨hrequirement, hdisjunct.trans hleft.disjunct,
      hleft.same.trans ⟨hsame.opened, hsame.outer⟩, hrelation⟩

theorem follows_orExpr {part : Phrase → Reading Condition} (hs : Ready ts .orExpr s p.place)
    (hpart : ∀ p' s', Ready ts .andExpr s' p'.place →
      Follows ts stop s' p'.place (part .andExpr p') (Done ts .andExpr s')) :
    Follows ts stop s p.place (body ts stop part .orExpr p) (Done ts .orExpr s) := by
  obtain ⟨hterm, hfresh⟩ := hs
  refine follows_chain ((hpart p s ⟨hterm, by rw [hfresh]; rfl, by rw [hfresh]; rfl⟩).imp ?_) ?_
  · intro c i s' ⟨⟨hrequirement, hdisjunct, hsame, hrelation⟩, hand⟩
    rw [hfresh] at hdisjunct
    exact ⟨alternative?_first hrequirement hdisjunct, hsame, hrelation, hand⟩
  · intro left q s' t hleft ht hlexeme
    refine ⟨_, step_or hleft.alternative hlexeme,
      (hpart q.next _ ⟨awaitsTerm_of_false rfl, rfl, rfl⟩).imp ?_⟩
    intro c i s'' ⟨⟨hrequirement, hdisjunct, hsame, hrelation⟩, hand⟩
    exact ⟨alternative?_next hrequirement hdisjunct,
      hleft.same.trans ⟨hsame.opened, hsame.outer⟩, hrelation, hand⟩

-- By induction on the depth. It need not be enough: a reading that is not finished is followed, too.
theorem follows_read {depth : Nat} (hproper : ∀ t ∈ ts, t.lexeme.Proper) (phrase : Phrase)
    (hs : Ready ts phrase s p.place) :
    Follows ts stop s p.place (read ts stop depth phrase p) (Done ts phrase s) := by
  induction depth generalizing phrase s p with
  | zero =>
    intro refusal heq
    cases heq
  | succ depth ih =>
    refine Follows.visit ?_
    cases phrase with
    | orExpr => exact follows_orExpr hs fun p' s' hs' => ih .andExpr hs'
    | andExpr => exact follows_andExpr hs fun p' s' hs' => ih .notExpr hs'
    | notExpr => exact follows_notExpr hs (fun s' hs' => ih .notExpr hs') fun hs' => ih .primary hs'
    | primary => exact follows_primary hproper hs fun s' hs' => ih .orExpr hs'

end

/-! ### Conditions -/

theorem follows_descend (stop depth : Nat) (hproper : ∀ t ∈ ts, t.lexeme.Proper) (hne : ts ≠ []) :
    Follows ts stop .initial 0 (descend ts stop depth)
      (fun c i s => resume ts stop s i = .ok c) := by
  obtain ⟨first, hfirst⟩ : ∃ first, ts[0]? = some first := by
    obtain ⟨t, ts', rfl⟩ := List.exists_cons_of_ne_nil hne
    exact ⟨t, rfl⟩
  refine Follows.current ?_
  rw [if_neg (by rw [hfirst]; exact Option.some_ne_none _)]
  refine Follows.bind (follows_read (p := ⟨0, []⟩) hproper .orExpr ⟨awaitsTerm_of_false rfl, rfl⟩) ?_
  intro c p s hdone
  obtain ⟨⟨halternative, hsame, -, -⟩, -⟩ := id hdone
  refine Follows.current ?_
  cases hlast : ts[p.place]? with
  | none =>
    obtain ⟨term, hterm, rfl⟩ := Option.map_eq_some_iff.1 halternative
    refine Follows.return ?_
    rw [resume_at_end hlast, finish, hterm]
    simp only [hsame.opened]
    rfl
  | some last =>
    refine Follows.refuse ?_
    rw [resume_of_refusal hlast (step_behind_alternative hdone hlast fun _ => hsame.outer),
      cannotFollow, hsame.opened]
    rfl

/-- What the machine makes of all tokens. -/
theorem parse_eq_mapError_resume (stop : Nat) (hne : ts ≠ []) :
    parse ts stop = (resume ts stop .initial 0).mapError fun (complaint, pos) =>
      (complaint, some pos) := by
  have hempty : ts.isEmpty = false := List.isEmpty_eq_false_iff.2 hne
  simp only [parse, hempty, Bool.false_eq_true, if_false, resume, List.drop_zero]
  cases State.initial.run ts with
  | error refusal => rfl
  | ok s =>
    show _ = (s.finish stop).mapError _
    cases hfinish : s.finish stop <;> simp only [hfinish] <;> rfl

/-- Tokens of texts are read as the machine reads them, or refused as it refuses them. -/
theorem meets_descend (stop : Nat) {depth : Nat} (hproper : ∀ t ∈ ts, t.lexeme.Proper) (hne : ts ≠ [])
    (hdepth : enough ts ≤ depth) :
    Meets (descend ts stop depth) (fun c _ => parse ts stop = .ok c)
      (fun e _ => ∃ complaint pos, e = .refused (complaint, pos) ∧
        parse ts stop = .error (complaint, some pos)) := by
  have hreads := reads_descend stop hne hdepth
  have hfollows := follows_descend stop depth hproper hne
  have hparse := parse_eq_mapError_resume stop hne
  cases hresult : descend ts stop depth with
  | ok c p =>
    rw [hresult] at hfollows
    obtain ⟨s, hs, hc⟩ := hfollows
    show parse ts stop = .ok c
    rw [hparse, hs, hc]
    rfl
  | error e p =>
    rw [hresult] at hreads hfollows
    obtain ⟨hdue, -⟩ := hreads
    cases hdue with
    | refused refusal =>
      refine ⟨refusal.1, refusal.2, rfl, ?_⟩
      rw [hparse, hfollows refusal rfl]
      rfl
    | unreadable mem lexeme reads =>
      have hreadable := hproper _ mem
      rw [lexeme] at hreadable
      simp [Lexeme.Proper, reads] at hreadable

/-- A text that is not blank has tokens. -/
theorem ne_nil_of_scan {cs : List Char} (hblank : Text.allBlank cs = false)
    (hscan : Token.scan cs = .ok ts) : ts ≠ [] := by
  intro hnil
  subst hnil
  have hall := Token.allBlank_of_scanFrom hscan
  rw [List.drop_zero, hblank] at hall
  cases hall

/-- Every text is read to a condition or a parse error, the same as by the machine. -/
theorem readText_eq_compile (text : String) : readText text = .ok (compile text) := by
  unfold readText compile
  dsimp only
  cases hblank : Text.allBlank text.toList with
  | true => rfl
  | false =>
    cases hscan : Token.scan text.toList with
    | error e => rfl
    | ok ts =>
      have hmeets := meets_descend text.toList.length (Token.scan_proper hscan)
        (ne_nil_of_scan hblank hscan) (Nat.le_refl (enough ts))
      simp only [Bool.false_eq_true, if_false]
      cases hresult : descend ts text.toList.length (enough ts) with
      | ok c p =>
        rw [hresult] at hmeets
        have hparse : parse ts text.toList.length = .ok c := hmeets
        simp only [hparse]
      | error e p =>
        rw [hresult] at hmeets
        obtain ⟨complaint, pos, rfl, hparse⟩ := hmeets
        simp only [hparse]

/-- Descent ends on all tokens, its calls stay among them and take what they return, and nothing fails
but what the tokens are to blame for; only where there are none is there nothing but the end. On every
text it ends with a condition or a parse error, those of the machine, and a text that is not blank has
tokens. -/
theorem descend_ends :
    (∀ (ts : List Token) (stop depth : Nat), enough ts ≤ depth →
      Meets (descend ts stop depth)
        (fun c p => Contained ts p ∧ 0 < p.place ∧
          ((∀ t ∈ ts, t.lexeme.Proper) → parse ts stop = .ok c))
        (fun e p => Contained ts p ∧
          (ts = [] ∧ e = .empty ∧ parse ts stop = .error (.empty, none) ∨
            e.Due ts ∧ ((∀ t ∈ ts, t.lexeme.Proper) → ∃ complaint pos,
              e = .refused (complaint, pos) ∧ parse ts stop = .error (complaint, some pos))))) ∧
    (∀ text : String, readText text = .ok (compile text)) ∧
    (∀ (text : String) (ts : List Token), Text.allBlank text.toList = false →
      Token.scan text.toList = .ok ts → ts ≠ []) := by
  refine ⟨?_, readText_eq_compile, fun text ts => ne_nil_of_scan⟩
  intro ts stop depth hdepth
  by_cases hne : ts = []
  · subst hne
    exact ⟨⟨Nat.le_refl _, fun _ hv => nomatch hv⟩, .inl ⟨rfl, rfl, rfl⟩⟩
  have hreads := reads_descend stop hne hdepth
  have hmeets := fun hproper => meets_descend stop hproper hne hdepth
  cases hresult : descend ts stop depth with
  | ok c p =>
    rw [hresult] at hreads hmeets
    exact ⟨hreads.2.contained, Nat.lt_of_lt_of_le Nat.one_pos hreads.1, hmeets⟩
  | error e p =>
    rw [hresult] at hreads hmeets
    exact ⟨hreads.2.contained, .inr ⟨hreads.1, hmeets⟩⟩

/-- The tokens of a text that ends too early. -/
def cutShort : List Token := [⟨.not, 0, 3⟩, ⟨.opening, 4, 5⟩, ⟨.word "a", 5, 6⟩]

/-- The calls on these tokens, from the innermost ones out; those that wait for the closing parenthesis
return nothing. -/
def cutShortCalls : List Visit :=
  [⟨.operand, 2, 3, true⟩, ⟨.phrase .primary, 2, 3, true⟩, ⟨.phrase .notExpr, 2, 3, true⟩,
    ⟨.phrase .andExpr, 2, 3, true⟩, ⟨.phrase .orExpr, 2, 3, true⟩, ⟨.phrase .primary, 1, 3, false⟩,
    ⟨.phrase .notExpr, 1, 3, false⟩, ⟨.phrase .notExpr, 0, 3, false⟩,
    ⟨.phrase .andExpr, 0, 3, false⟩, ⟨.phrase .orExpr, 0, 3, false⟩]

theorem descend_ends_cutShort :
    enough cutShort ≤ 16 ∧ Text.allBlank "not (a".toList = false ∧
      Token.scan "not (a".toList = .ok cutShort ∧ cutShort ≠ [] ∧
      descend cutShort 6 16 = .error (.refused (.unclosedOpening, 4)) ⟨3, cutShortCalls⟩ ∧
      Contained cutShort ⟨3, cutShortCalls⟩ ∧
      parse cutShort 6 = .error (.unclosedOpening, some 4) ∧
      readText "not (a" = .ok (compile "not (a") := by
  have henough : enough cutShort ≤ 16 := by decide
  have hblank : Text.allBlank "not (a".toList = false := by decide
  have hscan : Token.scan "not (a".toList = .ok cutShort := by rfl
  have hdescend : descend cutShort 6 16
      = .error (.refused (.unclosedOpening, 4)) ⟨3, cutShortCalls⟩ := by rfl
  have hmeets := descend_ends.1 cutShort 6 16 henough
  have hne := descend_ends.2.2 _ cutShort hblank hscan
  rw [hdescend] at hmeets
  obtain ⟨hcontained, hempty | ⟨-, hagrees⟩⟩ := hmeets
  · exact absurd hempty.1 hne
  · obtain ⟨complaint, pos, heq, hparse⟩ := hagrees (Token.scan_proper hscan)
    obtain ⟨rfl, rfl⟩ := Prod.mk.inj (Failure.refused.inj heq)
    exact ⟨henough, hblank, hscan, hne, hdescend, hcontained, hparse, descend_ends.2.1 _⟩

end RowAlert.Condition.Descent
