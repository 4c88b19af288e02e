import Mathlib.Data.List.Fold
import RowAlert.Proofs.Condition.Compiling
import RowAlert.Proofs.Condition.Evaluation
import RowAlert.Proofs.Condition.Lookahead
import RowAlert.Proofs.Condition.Normalization
/-!
# RowAlert.Proofs.Condition.ShortCircuit

**Conditions without parentheses**, read from left to right.

A condition without parentheses is a list of groups joined by OR, and a group is a list of terms
joined by AND. Its tree leans to the left on both levels, so the term that is looked at first stands
deepest in it. What comes of it is a plain scan nevertheless (`evaluate_joined`): the terms are asked
one after the other, a false one ends its group, a group without a false one ends the scan, and so
does an error. The reason is that taking answers in turn is associative.
-/

namespace RowAlert

namespace Answer

/-! ### Scanning answers -/

/-- The answers of a group in turn, up to one that is false or an error. -/
def scanGroup : List Answer → Answer
  | [] => .ok true
  | .ok true :: answers => scanGroup answers
  | .ok false :: _ => .ok false
  | .error e :: _ => .error e

/-- The groups in turn, up to one that holds or ends with an error. -/
def scan : List (List Answer) → Answer
  | [] => .ok false
  | group :: groups =>
    match scanGroup group with
    | .ok true => .ok true
    | .ok false => scan groups
    | .error e => .error e

theorem inTurn_assoc (decisive : Bool) (x y z : Answer) :
    inTurn decisive (inTurn decisive x y) z = inTurn decisive x (inTurn decisive y z) := by
  cases x with
  | error e => rfl
  | ok b => by_cases hb : b = decisive <;> simp [inTurn, hb]

instance (decisive : Bool) : Std.Associative (inTurn decisive) := ⟨inTurn_assoc decisive⟩

/-- An answer that does not decide adds nothing behind the others. -/
theorem inTurn_undecided (decisive : Bool) (x : Answer) :
    inTurn decisive x (.ok !decisive) = x := by
  cases x with
  | error e => rfl
  | ok b => cases b <;> cases decisive <;> rfl

/-- Taking answers in turn from the left is taking them in turn from the right. -/
theorem foldl_inTurn (decisive : Bool) (x : Answer) (answers : List Answer) :
    answers.foldl (inTurn decisive) x =
      inTurn decisive x (answers.foldr (inTurn decisive) (.ok !decisive)) := by
  calc answers.foldl (inTurn decisive) x
    _ = inTurn decisive (answers.foldl (inTurn decisive) x) (.ok !decisive) :=
      (inTurn_undecided decisive _).symm
    _ = inTurn decisive x (answers.foldr (inTurn decisive) (.ok !decisive)) :=
      List.foldl1_eq_foldr1

theorem scanGroup_cons (x : Answer) (answers : List Answer) :
    scanGroup (x :: answers) = inTurn false x (scanGroup answers) := by
  rcases x with e | (_ | _) <;> rfl

theorem scan_cons (group : List Answer) (groups : List (List Answer)) :
    scan (group :: groups) = inTurn true (scanGroup group) (scan groups) := by
  rw [scan]
  rcases scanGroup group with e | (_ | _) <;> rfl

theorem scanGroup_eq_foldr (answers : List Answer) :
    scanGroup answers = answers.foldr (inTurn false) (.ok true) := by
  induction answers with
  | nil => rfl
  | cons x answers ih => rw [scanGroup_cons, ih, List.foldr_cons]

theorem scan_eq_foldr (groups : List (List Answer)) :
    scan groups = (groups.map scanGroup).foldr (inTurn true) (.ok false) := by
  induction groups with
  | nil => rfl
  | cons group groups ih => rw [scan_cons, ih, List.map_cons, List.foldr_cons]

/-! ### What a scan reaches -/

/-- The answer at a place of a group, if there is one. -/
def answerAt? (table : List (List Answer)) (group place : Nat) : Option Answer :=
  table[group]?.bind fun answers => answers[place]?

/-- The scan comes to this place: it has left the groups before it, and what it has seen of the group
is true. -/
def Reached (table : List (List Answer)) (group place : Nat) : Prop :=
  (∀ answers ∈ table.take group, scanGroup answers = .ok false) ∧
    ∀ answers ∈ table[group]?, ∀ x ∈ answers.take place, x = .ok true

theorem scanGroup_congr {answers answers' : List Answer}
    (h : ∀ place, (∀ x ∈ answers.take place, x = .ok true) → answers'[place]? = answers[place]?) :
    scanGroup answers' = scanGroup answers := by
  induction answers generalizing answers' with
  | nil =>
    have hfirst : answers'[0]? = none := h 0 (by simp)
    cases answers' with
    | nil => rfl
    | cons y tail => cases hfirst
  | cons x answers ih =>
    have hfirst : answers'[0]? = some x := h 0 (by simp)
    obtain ⟨tail, rfl⟩ : ∃ tail, answers' = x :: tail := by
      cases answers' with
      | nil => cases hfirst
      | cons y tail => exact ⟨tail, by rw [Option.some.inj hfirst]⟩
    rcases x with e | (_ | _)
    · rfl
    · rfl
    · -- A true answer is passed.
      have htail : scanGroup tail = scanGroup answers := ih fun place hplace => by
        simpa using h (place + 1) (List.forall_mem_cons.2 ⟨rfl, hplace⟩)
      exact htail

/-- Behind a group that was abandoned the scan goes on as if it began there. -/
theorem Reached.behind {answers : List Answer} {table : List (List Answer)} {group place : Nat}
    (h : Reached table group place) (hfalse : scanGroup answers = .ok false) :
    Reached (answers :: table) (group + 1) place :=
  ⟨List.forall_mem_cons.2 ⟨hfalse, h.1⟩, h.2⟩

theorem reached_first {answers : List Answer} (table : List (List Answer)) {place : Nat}
    (h : ∀ x ∈ answers.take place, x = .ok true) : Reached (answers :: table) 0 place := by
  refine ⟨fun _ hnil => absurd hnil List.not_mem_nil, fun first hfirst => ?_⟩
  obtain rfl : answers = first := Option.some.inj hfirst
  exact h

/-- Answers that the scan does not reach do not matter. -/
theorem scan_congr {table table' : List (List Answer)} (hempty : [] ∉ table) (hempty' : [] ∉ table')
    (h : ∀ group place, Reached table group place →
      answerAt? table' group place = answerAt? table group place) : scan table' = scan table := by
  induction table generalizing table' with
  | nil =>
    have hfirst : answerAt? table' 0 0 = none := h 0 0 (by simp [Reached])
    cases table' with
    | nil => rfl
    | cons answers' table' => simp_all [answerAt?]
  | cons answers table ih =>
    have hgroup : ∀ place, (∀ x ∈ answers.take place, x = .ok true) →
        answerAt? table' 0 place = answers[place]? :=
      fun place hplace => h 0 place (reached_first table hplace)
    cases table' with
    | nil =>
      have hfirst : none = answers[0]? := hgroup 0 (by simp)
      simp_all
    | cons answers' table' =>
      have heq : scanGroup answers' = scanGroup answers := scanGroup_congr hgroup
      simp only [scan, heq]
      rcases hscan : scanGroup answers with e | (_ | _)
      · rfl
      · exact ih (List.not_mem_of_not_mem_cons hempty) (List.not_mem_of_not_mem_cons hempty')
          fun group place hplace => h (group + 1) place (hplace.behind hscan)
      · rfl

end Answer

/-! ### Terms, groups and their text -/

/-- The parts of a text that are joined by one word, at least one. -/
structure Chain (α : Type) where
  first : α
  rest : List α

def Chain.toList {α : Type} (parts : Chain α) : List α := parts.first :: parts.rest

namespace Condition

/-- A comparison, an operand or a condition in parentheses, behind any number of NOTs, in a spelling
of its own. -/
structure Term where
  text : String
  derivation : NotExpr
  cut : ∃ ts, Token.scan text.toList = .ok ts ∧ ts.map Token.lexeme = derivation.lexemes

namespace Term

/-- The condition that the term is by itself: what its text compiles to (`compile_text`). -/
def condition (t : Term) : Condition := t.derivation.tree

def answer (row : Row) (t : Term) : Answer := t.condition.evaluate row

theorem spells (t : Term) : Spells t.text.toList t.derivation.lexemes := by
  obtain ⟨ts, hscan, hts⟩ := t.cut
  rw [← hts]
  exact Spells.of_scan hscan

theorem compile_text (t : Term) : compile t.text = .ok t.condition := by
  obtain ⟨ts, hscan, hts⟩ := t.cut
  refine compile_of_derivation hscan (.chain (.chain t.derivation .done) .done) ?_
  simp [OrExpr.lexemes, OrRest.lexemes, AndExpr.lexemes, AndRest.lexemes, hts]

end Term

/-- The text of terms that are joined by AND. -/
def groupText (group : Chain Term) : String := " AND ".intercalate (group.toList.map Term.text)

/-- The text of groups that are joined by OR. -/
def joined (groups : Chain (Chain Term)) : String :=
  " OR ".intercalate (groups.toList.map groupText)

/-- The answers of the terms, each asked by itself. -/
def answers (row : Row) (groups : Chain (Chain Term)) : List (List Answer) :=
  groups.toList.map fun group => group.toList.map (Term.answer row)

theorem nil_not_mem_answers (row : Row) (groups : Chain (Chain Term)) :
    [] ∉ answers row groups := by
  simp [answers, Chain.toList]

/-! ### Their derivation -/

def AndRest.ofTerms : List Term → AndRest
  | [] => .done
  | t :: ts => .more t.derivation (ofTerms ts)

def AndExpr.ofGroup (group : Chain Term) : AndExpr :=
  .chain group.first.derivation (.ofTerms group.rest)

def OrRest.ofGroups : List (Chain Term) → OrRest
  | [] => .done
  | group :: groups => .more (.ofGroup group) (ofGroups groups)

def OrExpr.ofGroups (groups : Chain (Chain Term)) : OrExpr :=
  .chain (.ofGroup groups.first) (.ofGroups groups.rest)

theorem AndRest.lexemes_ofTerms (ts : List Term) :
    (ofTerms ts).lexemes = ts.flatMap fun t => .and :: t.derivation.lexemes := by
  induction ts with
  | nil => rfl
  | cons t ts ih => rw [ofTerms, lexemes, ih, List.flatMap_cons, List.cons_append]

theorem OrRest.lexemes_ofGroups (groups : List (Chain Term)) :
    (ofGroups groups).lexemes = groups.flatMap fun group => .or :: (AndExpr.ofGroup group).lexemes := by
  induction groups with
  | nil => rfl
  | cons group groups ih => rw [ofGroups, lexemes, ih, List.flatMap_cons, List.cons_append]

end Condition

/-- Parts that are joined by a word between blanks spell their lexemes, joined by that of the word. -/
theorem Spells.intercalate {word : List Char} {l : Lexeme} (hword : Spells word [l]) {α : Type}
    {chars : α → List Char} {lexemes : α → List Lexeme} (h : ∀ a, Spells (chars a) (lexemes a))
    (first : α) (rest : List α) :
    Spells ((' ' :: (word ++ [' '])).intercalate ((first :: rest).map chars))
      (lexemes first ++ rest.flatMap fun a => l :: lexemes a) := by
  induction rest generalizing first with
  | nil => simpa using h first
  | cons next rest ih =>
    -- The parts behind the first one are joined already; the word goes between.
    have hjoined := ((h first).spaced hword).spaced (ih next)
    simpa [Spells] using hjoined

namespace Condition

theorem spells_groupText (group : Chain Term) :
    Spells (groupText group).toList (AndExpr.ofGroup group).lexemes := by
  have hword : Spells ['A', 'N', 'D'] [.and] := Spells.word rfl (List.all_eq_true.1 rfl)
  have hgroup := hword.intercalate Term.spells group.first group.rest
  rw [← AndRest.lexemes_ofTerms] at hgroup
  rw [groupText, String.toList_intercalate, List.map_map]
  exact hgroup

theorem spells_joined (groups : Chain (Chain Term)) :
    Spells (joined groups).toList (OrExpr.ofGroups groups).lexemes := by
  have hword : Spells ['O', 'R'] [.or] := Spells.word rfl (List.all_eq_true.1 rfl)
  have hjoined := hword.intercalate spells_groupText groups.first groups.rest
  rw [← OrRest.lexemes_ofGroups] at hjoined
  rw [joined, String.toList_intercalate, List.map_map]
  exact hjoined

/-- Terms joined by AND and OR compile. -/
theorem compile_joined (groups : Chain (Chain Term)) :
    compile (joined groups) = .ok (OrExpr.ofGroups groups).tree := by
  obtain ⟨ts, hts, hscan⟩ := (spells_joined groups).scan
  exact compile_of_derivation hscan _ hts.symm

/-! ### Their truth -/

theorem AndRest.evaluate_treeFrom (row : Row) (ts : List Term) (left : Condition) :
    ((ofTerms ts).treeFrom left).evaluate row =
      (ts.map (Term.answer row)).foldl (Answer.inTurn false) (left.evaluate row) := by
  induction ts generalizing left with
  | nil => rfl
  | cons t ts ih =>
    rw [ofTerms, treeFrom, ih, evaluate_and]
    rfl

theorem AndExpr.evaluate_tree (row : Row) (group : Chain Term) :
    (ofGroup group).tree.evaluate row = Answer.scanGroup (group.toList.map (Term.answer row)) := by
  rw [ofGroup, tree, AndRest.evaluate_treeFrom, Answer.foldl_inTurn, Answer.scanGroup_eq_foldr]
  rfl

theorem OrRest.evaluate_treeFrom (row : Row) (groups : List (Chain Term)) (left : Condition) :
    ((ofGroups groups).treeFrom left).evaluate row =
      (groups.map fun group => Answer.scanGroup (group.toList.map (Term.answer row))).foldl
        (Answer.inTurn true) (left.evaluate row) := by
  induction groups generalizing left with
  | nil => rfl
  | cons group groups ih =>
    rw [ofGroups, treeFrom, ih, evaluate_or, AndExpr.evaluate_tree]
    rfl

theorem OrExpr.evaluate_tree (row : Row) (groups : Chain (Chain Term)) :
    (ofGroups groups).tree.evaluate row = Answer.scan (answers row groups) := by
  rw [ofGroups, tree, OrRest.evaluate_treeFrom, AndExpr.evaluate_tree, Answer.foldl_inTurn,
    Answer.scan_eq_foldr, answers, List.map_map]
  rfl

/-- Reading a text makes no missing value. -/
theorem Readable.missing_not_mem {c : Condition} (h : c.Readable) (name : String) :
    .literal (.missing name) ∉ c.operands := by
  have hoperand : ∀ {o : Operand}, o.Readable → .literal (.missing name) ≠ o := by
    intro o ho heq
    subst heq
    exact ho
  induction c with
  | operand o => simpa [operands] using hoperand h
  | compare r left right => simpa [operands] using ⟨hoperand h.2.1, hoperand h.2.2⟩
  | and left right ihleft ihright => simpa [operands] using ⟨ihleft h.1, ihright h.2⟩
  | or left right ihleft ihright => simpa [operands] using ⟨ihleft h.1, ihright h.2⟩
  | not inner ih => exact ih h
  | unknown kind => exact List.not_mem_nil

/-- In a condition that was read from a text, an error about a field is about one that the row does
not have. -/
theorem get?_of_evaluate_error {text : String} {c : Condition} (hcompile : compile text = .ok c)
    {row : Row} {e : EvalError} {name : String} (h : c.evaluate row = .error e)
    (hname : e.field? = some name) : row.get? name = none := by
  rcases wanting_of_evaluate_error h hname with ⟨-, hnone⟩ | hmissing
  · exact hnone
  · exact absurd hmissing ((readable_of_compile hcompile).missing_not_mem name)

/-- **What terms that are joined by AND and OR mean.** They compile, and on every row they have the
answer of the scan. Other terms in places that the scan does not reach would make no difference, and
an error about a field is about one that the row does not have. -/
theorem evaluate_joined (groups : Chain (Chain Term)) :
    ∃ c, compile (joined groups) = .ok c ∧ ∀ row,
      c.evaluate row = Answer.scan (answers row groups) ∧
      (∀ groups', (∀ group place, Answer.Reached (answers row groups) group place →
          Answer.answerAt? (answers row groups') group place =
            Answer.answerAt? (answers row groups) group place) →
        ∃ c', compile (joined groups') = .ok c' ∧ c'.evaluate row = c.evaluate row) ∧
      ∀ e name, c.evaluate row = .error e → e.field? = some name → row.get? name = none := by
  have hcompile := compile_joined groups
  refine ⟨_, hcompile, fun row => ⟨OrExpr.evaluate_tree row groups, ?_, ?_⟩⟩
  · intro groups' hagree
    refine ⟨_, compile_joined groups', ?_⟩
    rw [OrExpr.evaluate_tree, OrExpr.evaluate_tree]
    exact Answer.scan_congr (nil_not_mem_answers row groups) (nil_not_mem_answers row groups') hagree
  · intro e name herror hname
    exact get?_of_evaluate_error hcompile herror hname

/-- A missing field that is looked at only if the terms before it hold. -/
theorem evaluate_joined_missing :
    ∃ c, compile "a >= 1 AND !b OR not x=='y'" = .ok c ∧
      c.evaluate ⟨[("a", "0"), ("x", "z")], [], none⟩ = .ok true ∧
      c.evaluate ⟨[("a", "2"), ("x", "z")], [], none⟩ = .error (.missingField "b") := by
  let count : Term := ⟨"a >= 1", .primary (.comparison
    ⟨.word "a", .field "a", .field (by decide)⟩ .atLeast (by decide)
    ⟨.number "1", .literal (.number (.ofRatio false 1 1)), .number (by decide +kernel)⟩), _, rfl, rfl⟩
  let flag : Term := ⟨"!b", .not (.primary (.operand ⟨.word "b", .field "b", .field (by decide)⟩)),
    _, rfl, rfl⟩
  let label : Term := ⟨"not x=='y'", .not (.primary (.comparison
    ⟨.word "x", .field "x", .field (by decide)⟩ .equal (by decide)
    ⟨.text "y", .literal (.text "y"), .text "y"⟩)), _, rfl, rfl⟩
  obtain ⟨c, hcompile, hrow⟩ := evaluate_joined ⟨⟨count, [flag]⟩, [⟨label, []⟩]⟩
  refine ⟨c, hcompile, (hrow _).1.trans ?_, (hrow _).1.trans ?_⟩
  · decide +kernel
  · decide +kernel

end Condition

end RowAlert
