import RowAlert.Condition.Parser
/-!
# RowAlert.Proofs.Condition.Grammar

The **grammar of conditions** as a type of derivations.

```
condition  := or_expr end
or_expr    := and_expr (OR and_expr)*
and_expr   := not_expr (AND not_expr)*
not_expr   := NOT not_expr | primary
primary    := "(" or_expr ")" | operand (relation operand)?
operand    := word | number | text
```

A derivation is a value of `OrExpr`, with one constructor for each alternative of each rule. It says
which lexemes it derives (`lexemes`) and which tree it builds (`tree`): chains associate to the
left, and parentheses leave no node. No list of lexemes has two derivations
(`OrExpr.eq_of_lexemes`).
-/

namespace RowAlert

/-- A lexeme that some text writes: its numeral reads, and its relation is one of the six. -/
def Lexeme.Proper : Lexeme → Prop
  | .number written => (Number.ofText? written).isSome
  | .relation r => r ∈ Relation.all
  | _ => True

namespace Condition

/-- The operand that a lexeme writes. -/
inductive Writes : Lexeme → Operand → Prop
  | number {written : String} {x : Number} (h : Number.ofText? written = some x) :
      Writes (.number written) (.literal (.number x))
  | text (content : String) : Writes (.text content) (.literal (.text content))
  /-- The words for truth, in any letter case, are texts in lower case. -/
  | truth {name : String}
      (h : String.ofList (name.toList.map Char.toLower) ∈ Value.truthWords) :
      Writes (.word name) (.literal (.text (String.ofList (name.toList.map Char.toLower))))
  | field {name : String}
      (h : String.ofList (name.toList.map Char.toLower) ∉ Value.truthWords) :
      Writes (.word name) (.field name)

/-- An operand and the lexeme that writes it. -/
structure Atom where
  lexeme : Lexeme
  operand : Operand
  writes : Writes lexeme operand

mutual

/-- Alternatives, joined by OR. -/
inductive OrExpr
  | chain (first : AndExpr) (rest : OrRest)

/-- What follows the first alternative. -/
inductive OrRest
  | done
  | more (next : AndExpr) (rest : OrRest)

/-- Requirements, joined by AND. -/
inductive AndExpr
  | chain (first : NotExpr) (rest : AndRest)

/-- What follows the first requirement. -/
inductive AndRest
  | done
  | more (next : NotExpr) (rest : AndRest)

/-- A primary behind any number of NOTs. -/
inductive NotExpr
  | not (inner : NotExpr)
  | primary (p : Primary)

/-- A condition in parentheses, an operand, or a comparison. -/
inductive Primary
  | group (inner : OrExpr)
  | operand (a : Atom)
  | comparison (left : Atom) (r : Relation) (known : r ∈ Relation.all) (right : Atom)

end

/-! ### What a derivation derives -/

mutual

/-- The lexemes of a derivation. -/
def OrExpr.lexemes : OrExpr → List Lexeme
  | .chain first rest => first.lexemes ++ rest.lexemes

def OrRest.lexemes : OrRest → List Lexeme
  | .done => []
  | .more next rest => .or :: (next.lexemes ++ rest.lexemes)

def AndExpr.lexemes : AndExpr → List Lexeme
  | .chain first rest => first.lexemes ++ rest.lexemes

def AndRest.lexemes : AndRest → List Lexeme
  | .done => []
  | .more next rest => .and :: (next.lexemes ++ rest.lexemes)

def NotExpr.lexemes : NotExpr → List Lexeme
  | .not inner => .not :: inner.lexemes
  | .primary p => p.lexemes

def Primary.lexemes : Primary → List Lexeme
  | .group inner => .opening :: (inner.lexemes ++ [.closing])
  | .operand a => [a.lexeme]
  | .comparison left r _ right => [left.lexeme, .relation r, right.lexeme]

end

mutual

/-- The tree of a derivation. -/
def OrExpr.tree : OrExpr → Condition
  | .chain first rest => rest.treeFrom first.tree

/-- The tree of alternatives, those before them being `left`. -/
def OrRest.treeFrom : OrRest → Condition → Condition
  | .done, left => left
  | .more next rest, left => rest.treeFrom (.or left next.tree)

def AndExpr.tree : AndExpr → Condition
  | .chain first rest => rest.treeFrom first.tree

/-- The tree of requirements, those before them being `left`. -/
def AndRest.treeFrom : AndRest → Condition → Condition
  | .done, left => left
  | .more next rest, left => rest.treeFrom (.and left next.tree)

def NotExpr.tree : NotExpr → Condition
  | .not inner => .not inner.tree
  | .primary p => p.tree

def Primary.tree : Primary → Condition
  | .group inner => inner.tree
  | .operand a => .operand a.operand
  | .comparison left r _ right => .compare r left.operand right.operand

end

/-! ### Operands -/

theorem Writes.unique {l : Lexeme} {o p : Operand} (ho : Writes l o) (hp : Writes l p) : o = p := by
  cases ho with
  | number h =>
    cases hp with
    | number h' => rw [Option.some.inj (h.symm.trans h')]
  | text content => cases hp; rfl
  | truth h =>
    cases hp with
    | truth h' => rfl
    | field h' => exact absurd h h'
  | field h =>
    cases hp with
    | truth h' => exact absurd h' h
    | field h' => rfl

/-- The lexeme decides the operand. -/
theorem Atom.eq_of_lexeme {a b : Atom} (h : a.lexeme = b.lexeme) : a = b := by
  obtain ⟨l, o, ho⟩ := a
  obtain ⟨m, p, hp⟩ := b
  obtain rfl : l = m := h
  obtain rfl := ho.unique hp
  rfl

theorem Writes.operandOf? {l : Lexeme} {o : Operand} (h : Writes l o) : operandOf? l = some o := by
  cases h with
  | number h => simp only [Condition.operandOf?, h, Option.getD_some]
  | text content => rfl
  | truth h => simp only [Condition.operandOf?, operandOfWord, List.contains_eq_mem, h, decide_true, if_true]
  | field h =>
    simp only [Condition.operandOf?, operandOfWord, List.contains_eq_mem, h, decide_false,
      Bool.false_eq_true, if_false]

theorem writes_of_operandOf? {l : Lexeme} {o : Operand} (hl : l.Proper)
    (h : operandOf? l = some o) : Writes l o := by
  cases l with
  | number written =>
    obtain ⟨x, hx⟩ := Option.isSome_iff_exists.1 hl
    rw [operandOf?, hx] at h
    obtain rfl := Option.some.inj h
    exact .number hx
  | text content =>
    obtain rfl := Option.some.inj h
    exact .text content
  | word name =>
    obtain rfl := Option.some.inj h
    by_cases htruth : String.ofList (name.toList.map Char.toLower) ∈ Value.truthWords
    · simpa only [operandOfWord, List.contains_eq_mem, htruth, decide_true, if_true]
        using Writes.truth htruth
    · simpa only [operandOfWord, List.contains_eq_mem, htruth, decide_false, Bool.false_eq_true,
        if_false] using Writes.field htruth
  | _ => cases h

/-- An operand begins neither a group nor a negation. -/
theorem Atom.lexeme_ne (a : Atom) : a.lexeme ≠ .opening ∧ a.lexeme ≠ .not := by
  obtain ⟨l, o, h⟩ := a
  cases h <;> simp

/-- A derivation derives at least one lexeme. -/
theorem OrExpr.lexemes_ne_nil (d : OrExpr) : d.lexemes ≠ [] := by
  obtain ⟨⟨first, _⟩, _⟩ := d
  have hfirst : first.lexemes ≠ [] := by
    rcases first with _ | p
    · exact List.cons_ne_nil _ _
    · cases p <;> exact List.cons_ne_nil _ _
  simp [lexemes, AndExpr.lexemes, hfirst]

/-! ### Unambiguity -/

/-- No relation comes next, so that an operand in front stands alone. -/
def EndsTerm (rest : List Lexeme) : Prop := ∀ r, rest.head? ≠ some (.relation r)

/-- Nothing comes next that would go on with a chain of requirements. -/
def EndsAnd (rest : List Lexeme) : Prop := EndsTerm rest ∧ rest.head? ≠ some .and

/-- Nothing comes next that would go on with a chain of alternatives. -/
def EndsOr (rest : List Lexeme) : Prop := EndsAnd rest ∧ rest.head? ≠ some .or

theorem endsOr_nil : EndsOr [] := by simp [EndsOr, EndsAnd, EndsTerm]

theorem endsOr_closing (rest : List Lexeme) : EndsOr (.closing :: rest) := by
  simp [EndsOr, EndsAnd, EndsTerm]

/-- A chain of requirements ends where the next alternative begins. -/
theorem OrRest.endsAnd (t : OrRest) {rest : List Lexeme} (h : EndsOr rest) :
    EndsAnd (t.lexemes ++ rest) := by
  cases t with
  | done => exact h.1
  | more next t => simp [OrRest.lexemes, EndsAnd, EndsTerm]

/-- A term ends where the next requirement begins. -/
theorem AndRest.endsTerm (t : AndRest) {rest : List Lexeme} (h : EndsAnd rest) :
    EndsTerm (t.lexemes ++ rest) := by
  cases t with
  | done => exact h.1
  | more next t => simp [AndRest.lexemes, EndsTerm]

/-- A primary does not begin with a NOT. -/
theorem Primary.lexemes_ne_not (p : Primary) (rest ls : List Lexeme) :
    p.lexemes ++ rest ≠ .not :: ls := by
  intro h
  cases p with
  | group inner => exact absurd (List.cons.inj h).1 (by simp)
  | operand a => exact a.lexeme_ne.2 (List.cons.inj h).1
  | comparison left r known right => exact left.lexeme_ne.2 (List.cons.inj h).1

-- By induction on the first derivation. What may follow a phrase decides where it ends: wherever
-- the derivations could part, the next lexeme is one that only one of them admits.
mutual

theorem OrExpr.prefix_unique : ∀ (d e : OrExpr) {rest rest' : List Lexeme}, EndsOr rest →
    EndsOr rest' → d.lexemes ++ rest = e.lexemes ++ rest' → d = e ∧ rest = rest'
  | .chain a t, .chain b u, rest, rest', hrest, hrest', h => by
    simp only [OrExpr.lexemes, List.append_assoc] at h
    obtain ⟨rfl, htail⟩ := AndExpr.prefix_unique a b (t.endsAnd hrest) (u.endsAnd hrest') h
    obtain ⟨rfl, rfl⟩ := OrRest.prefix_unique t u hrest hrest' htail
    exact ⟨rfl, rfl⟩

theorem OrRest.prefix_unique : ∀ (t u : OrRest) {rest rest' : List Lexeme}, EndsOr rest →
    EndsOr rest' → t.lexemes ++ rest = u.lexemes ++ rest' → t = u ∧ rest = rest'
  | .done, .done, _, _, _, _, h => ⟨rfl, h⟩
  | .done, .more b u, rest, rest', hrest, _, h => by
    simp only [OrRest.lexemes, List.nil_append] at h
    exact absurd (congrArg List.head? h) hrest.2
  | .more a t, .done, rest, rest', _, hrest', h => by
    simp only [OrRest.lexemes, List.nil_append] at h
    exact absurd (congrArg List.head? h).symm hrest'.2
  | .more a t, .more b u, rest, rest', hrest, hrest', h => by
    simp only [OrRest.lexemes, List.cons_append, List.append_assoc, List.cons.injEq,
      true_and] at h
    obtain ⟨rfl, htail⟩ := AndExpr.prefix_unique a b (t.endsAnd hrest) (u.endsAnd hrest') h
    obtain ⟨rfl, rfl⟩ := OrRest.prefix_unique t u hrest hrest' htail
    exact ⟨rfl, rfl⟩

theorem AndExpr.prefix_unique : ∀ (d e : AndExpr) {rest rest' : List Lexeme}, EndsAnd rest →
    EndsAnd rest' → d.lexemes ++ rest = e.lexemes ++ rest' → d = e ∧ rest = rest'
  | .chain a t, .chain b u, rest, rest', hrest, hrest', h => by
    simp only [AndExpr.lexemes, List.append_assoc] at h
    obtain ⟨rfl, htail⟩ := NotExpr.prefix_unique a b (t.endsTerm hrest) (u.endsTerm hrest') h
    obtain ⟨rfl, rfl⟩ := AndRest.prefix_unique t u hrest hrest' htail
    exact ⟨rfl, rfl⟩

theorem AndRest.prefix_unique : ∀ (t u : AndRest) {rest rest' : List Lexeme}, EndsAnd rest →
    EndsAnd rest' → t.lexemes ++ rest = u.lexemes ++ rest' → t = u ∧ rest = rest'
  | .done, .done, _, _, _, _, h => ⟨rfl, h⟩
  | .done, .more b u, rest, rest', hrest, _, h => by
    simp only [AndRest.lexemes, List.nil_append] at h
    exact absurd (congrArg List.head? h) hrest.2
  | .more a t, .done, rest, rest', _, hrest', h => by
    simp only [AndRest.lexemes, List.nil_append] at h
    exact absurd (congrArg List.head? h).symm hrest'.2
  | .more a t, .more b u, rest, rest', hrest, hrest', h => by
    simp only [AndRest.lexemes, List.cons_append, List.append_assoc, List.cons.injEq,
      true_and] at h
    obtain ⟨rfl, htail⟩ := NotExpr.prefix_unique a b (t.endsTerm hrest) (u.endsTerm hrest') h
    obtain ⟨rfl, rfl⟩ := AndRest.prefix_unique t u hrest hrest' htail
    exact ⟨rfl, rfl⟩

theorem NotExpr.prefix_unique : ∀ (d e : NotExpr) {rest rest' : List Lexeme}, EndsTerm rest →
    EndsTerm rest' → d.lexemes ++ rest = e.lexemes ++ rest' → d = e ∧ rest = rest'
  | .not d, .not e, rest, rest', hrest, hrest', h => by
    simp only [NotExpr.lexemes, List.cons_append, List.cons.injEq, true_and] at h
    obtain ⟨rfl, rfl⟩ := NotExpr.prefix_unique d e hrest hrest' h
    exact ⟨rfl, rfl⟩
  | .not d, .primary q, rest, rest', _, _, h => absurd h.symm (q.lexemes_ne_not _ _)
  | .primary p, .not e, rest, rest', _, _, h => absurd h (p.lexemes_ne_not _ _)
  | .primary p, .primary q, rest, rest', hrest, hrest', h => by
    obtain ⟨rfl, rfl⟩ := Primary.prefix_unique p q hrest hrest' h
    exact ⟨rfl, rfl⟩

theorem Primary.prefix_unique : ∀ (p q : Primary) {rest rest' : List Lexeme}, EndsTerm rest →
    EndsTerm rest' → p.lexemes ++ rest = q.lexemes ++ rest' → p = q ∧ rest = rest'
  | .group d, .group e, rest, rest', _, _, h => by
    simp only [Primary.lexemes, List.cons_append, List.append_assoc, List.nil_append,
      List.cons.injEq, true_and] at h
    obtain ⟨rfl, htail⟩ := OrExpr.prefix_unique d e (endsOr_closing _) (endsOr_closing _) h
    exact ⟨rfl, (List.cons.inj htail).2⟩
  | .group d, .operand b, _, _, _, _, h => absurd (List.cons.inj h).1.symm b.lexeme_ne.1
  | .group d, .comparison b _ _ _, _, _, _, _, h => absurd (List.cons.inj h).1.symm b.lexeme_ne.1
  | .operand a, .group e, _, _, _, _, h => absurd (List.cons.inj h).1 a.lexeme_ne.1
  | .operand a, .operand b, rest, rest', _, _, h => by
    obtain ⟨ha, hrest⟩ := List.cons.inj h
    exact ⟨by rw [Atom.eq_of_lexeme ha], hrest⟩
  | .operand a, .comparison b r _ _, rest, rest', hrest, _, h =>
    absurd (congrArg List.head? (List.cons.inj h).2) (hrest r)
  | .comparison a _ _ _, .group e, _, _, _, _, h => absurd (List.cons.inj h).1 a.lexeme_ne.1
  | .comparison a r _ _, .operand b, rest, rest', _, hrest', h =>
    absurd (congrArg List.head? (List.cons.inj h).2).symm (hrest' r)
  | .comparison a r hr a', .comparison b s hs b', rest, rest', _, _, h => by
    simp only [Primary.lexemes, List.cons_append, List.nil_append, List.cons.injEq,
      Lexeme.relation.injEq] at h
    obtain ⟨ha, rfl, ha', hrest⟩ := h
    rw [Atom.eq_of_lexeme ha, Atom.eq_of_lexeme ha']
    exact ⟨rfl, hrest⟩

end

/-- No list of lexemes has two derivations. -/
theorem OrExpr.eq_of_lexemes {d e : OrExpr} (h : d.lexemes = e.lexemes) : d = e :=
  (OrExpr.prefix_unique d e endsOr_nil endsOr_nil (congrArg (· ++ []) h)).1

end Condition

end RowAlert
