import Mathlib.Data.List.Basic
import RowAlert.Condition.Evaluate
import RowAlert.Proofs.Except
/-!
# RowAlert.Proofs.Condition.Evaluation

**What the truth of a condition depends on.**

An `AND` or `OR` takes the answers of its sides in turn: the first may decide, and only if it does not
is the second one looked at (`Answer.inTurn`). Everything here is an induction on the condition with
one lemma about answers in turn.

* A row that gains cells keeps every answer. It can only gain an answer where there was an error about
  a field that the condition names and the row lacked (`evaluate_eq_or_lacked`).
* A `NOT` in front of a condition can be pushed inward, down to its operands (`negate`). Whatever the
  row is, the answer stays the same and an error stays about the same field. This needs the numbers of
  the condition to have a place in the order; the cells of a row always have.
-/

namespace RowAlert

/-- Does a condition hold, or why can that not be said? -/
abbrev Answer := Except EvalError Bool

/-- Two answers in turn: the first if it is an error or the one that decides, else the second. -/
def Answer.inTurn (decisive : Bool) : Answer → Answer → Answer
  | .ok b, second => if b = decisive then .ok b else second
  | .error e, _ => .error e

namespace Condition

/-- The operands of a condition, from left to right. -/
def operands : Condition → List Operand
  | operand o => [o]
  | compare _ left right => [left, right]
  | and left right | or left right => left.operands ++ right.operands
  | not inner => inner.operands
  | unknown _ => []

theorem evaluate_and (row : Row) (left right : Condition) :
    (and left right).evaluate row = Answer.inTurn false (left.evaluate row) (right.evaluate row) := by
  rw [evaluate]
  rcases left.evaluate row with e | b
  · rfl
  · cases b <;> rfl

theorem evaluate_or (row : Row) (left right : Condition) :
    (or left right).evaluate row = Answer.inTurn true (left.evaluate row) (right.evaluate row) := by
  rw [evaluate]
  rcases left.evaluate row with e | b
  · rfl
  · cases b <;> rfl

theorem evaluate_not (row : Row) (inner : Condition) :
    (not inner).evaluate row = (inner.evaluate row).map (!·) := by
  rw [evaluate]
  cases inner.evaluate row <;> rfl

end Condition

/-! ### Rows that gain cells -/

/-- The row has every cell that the other one has, under the same name. -/
def Row.Extends (row' row : Row) : Prop :=
  ∀ name cell, row.get? name = some cell → row'.get? name = some cell

section

variable {α : Type} {row row' : Row}

/-- There is nothing on the first row, for want of a field that the operands name and that the second
row has. -/
def Lacked (row row' : Row) (os : List Operand) (x : Except EvalError α) : Prop :=
  ∃ name, x = .error (.missingField name) ∧ .field name ∈ os ∧
    row.get? name = none ∧ row'.get? name ≠ none

theorem Lacked.mono {os ps : List Operand} {x : Except EvalError α} (h : Lacked row row' os x)
    (hsub : os ⊆ ps) : Lacked row row' ps x := by
  obtain ⟨name, hx, hmem, hgained⟩ := h
  exact ⟨name, hx, hsub hmem, hgained⟩

/-- Where something is lacked, nothing can follow. -/
theorem Lacked.bind {β : Type} {os : List Operand} {x : Except EvalError α}
    (h : Lacked row row' os x) (f : α → Except EvalError β) : Lacked row row' os (x >>= f) := by
  obtain ⟨name, rfl, hgained⟩ := h
  exact ⟨name, rfl, hgained⟩

theorem Lacked.inTurn {os : List Operand} {x : Answer} (h : Lacked row row' os x)
    (decisive : Bool) (y : Answer) : Lacked row row' os (Answer.inTurn decisive x y) := by
  obtain ⟨name, rfl, hgained⟩ := h
  exact ⟨name, rfl, hgained⟩

/-- Answers in turn stay the same, or one of them was lacking. -/
theorem Answer.inTurn_eq_or_lacked {os ps : List Operand} {x x' y y' : Answer}
    (hx : x' = x ∨ Lacked row row' os x) (hy : y' = y ∨ Lacked row row' ps y) (decisive : Bool) :
    inTurn decisive x' y' = inTurn decisive x y ∨
      Lacked row row' (os ++ ps) (inTurn decisive x y) := by
  rcases hx with rfl | hx
  · cases x' with
    | error e => exact .inl rfl
    | ok b =>
      by_cases hb : b = decisive
      · exact .inl (by simp only [inTurn, hb, if_true])
      · -- The first answer leaves it to the second.
        simp only [inTurn, hb, if_false]
        exact hy.imp_right fun hy => hy.mono (List.subset_append_right os ps)
  · exact .inr ((hx.inTurn decisive y).mono (List.subset_append_left os ps))

theorem Operand.valueOn_eq_or_lacked (h : row'.Extends row) (o : Operand) :
    o.valueOn row' = o.valueOn row ∨ Lacked row row' [o] (o.valueOn row) := by
  cases o with
  | literal v => exact .inl rfl
  | field name =>
    cases hcell : row.get? name with
    | some cell => exact .inl (by simp only [valueOn, hcell, h name cell hcell])
    | none =>
      cases hcell' : row'.get? name with
      | none => exact .inl (by simp only [valueOn, hcell, hcell'])
      | some cell =>
        refine .inr ⟨name, by simp only [valueOn, hcell], List.mem_singleton_self _, hcell, ?_⟩
        simp [hcell']

namespace Condition

/-- On a row that gained cells a condition has the answer or the error that it had, unless the row
was lacking a field that it has now. -/
theorem evaluate_eq_or_lacked (h : row'.Extends row) (c : Condition) :
    c.evaluate row' = c.evaluate row ∨ Lacked row row' c.operands (c.evaluate row) := by
  induction c with
  | operand o =>
    simp only [evaluate, operands]
    rcases o.valueOn_eq_or_lacked h with heq | hlacked
    · exact .inl (by rw [heq])
    · exact .inr (hlacked.bind _)
  | compare r left right =>
    simp only [evaluate, operands]
    rcases left.valueOn_eq_or_lacked h with heq | hlacked
    · rw [heq]
      cases left.valueOn row with
      | error e => exact .inl rfl
      | ok v =>
        rcases right.valueOn_eq_or_lacked h with heq | hlacked
        · exact .inl (by rw [heq])
        · exact .inr ((hlacked.bind _).mono (List.subset_cons_self left [right]))
    · exact .inr ((hlacked.bind _).mono (List.subset_append_left [left] [right]))
  | and left right ihleft ihright =>
    simp only [evaluate_and, operands]
    exact Answer.inTurn_eq_or_lacked ihleft ihright false
  | or left right ihleft ihright =>
    simp only [evaluate_or, operands]
    exact Answer.inTurn_eq_or_lacked ihleft ihright true
  | not inner ih =>
    simp only [evaluate_not, operands]
    rcases ih with heq | ⟨name, herror, hgained⟩
    · exact .inl (by rw [heq])
    · exact .inr ⟨name, by rw [herror]; rfl, hgained⟩
  | unknown kind => exact .inl rfl

/-- **An answer outlives a row that gains cells**, and so does an error, if the rows agree on every
field that the condition names. -/
theorem evaluate_of_extends (h : row'.Extends row) (c : Condition) :
    (∀ b, c.evaluate row = .ok b → c.evaluate row' = .ok b) ∧
      ((∀ name, .field name ∈ c.operands → row.get? name = row'.get? name) →
        ∀ e, c.evaluate row = .error e → c.evaluate row' = .error e) := by
  rcases evaluate_eq_or_lacked h c with heq | ⟨name, herror, hmem, hmissing, hpresent⟩
  · rw [heq]
    exact ⟨fun b hb => hb, fun _ e he => he⟩
  · constructor
    · intro b hb
      rw [herror] at hb
      cases hb
    · intro hagree
      exact absurd ((hagree name hmem).symm.trans hmissing) hpresent

/-- A row that gains a column, and the name of one for another: an answer that does not need the new
field, and an order that is asked of a text. -/
theorem evaluate_of_extends_or :
    let row : Row := ⟨[("a", "yes")], [], none⟩
    let row' : Row := ⟨[("b", "x"), ("a", "yes")], [("column1", "a")], some 0⟩
    let either : Condition := .or (.operand (.field "a")) (.operand (.field "b"))
    let order : Condition := .compare .greater (.field "a") (.literal (.text "x"))
    row'.Extends row ∧ (either.evaluate row = .ok true ∧ either.evaluate row' = .ok true) ∧
      (order.evaluate row = .error (.notNumeric "yes" .greater "x") ∧
        order.evaluate row' = .error (.notNumeric "yes" .greater "x")) := by
  intro row row' either order
  have hextends : row'.Extends row := by
    intro name cell h
    by_cases ha : "a" = name
    · subst ha
      exact h
    · simp [row, Row.get?, Row.item, Entries.get?, ha] at h
  refine ⟨hextends, ⟨rfl, (evaluate_of_extends hextends either).1 true rfl⟩, rfl, ?_⟩
  refine (evaluate_of_extends hextends order).2 ?_ _ rfl
  intro name hname
  obtain rfl : name = "a" := by simpa [order, operands] using hname
  rfl

end Condition

end

/-! ### Negations -/

/-- The same answer, or errors about the same field. -/
inductive SameAnswer : Answer → Answer → Prop
  | answer (b : Bool) : SameAnswer (.ok b) (.ok b)
  | error {e f : EvalError} (h : e.field? = f.field?) : SameAnswer (.error e) (.error f)

theorem SameAnswer.refl (x : Answer) : SameAnswer x x := by
  cases x with
  | ok b => exact .answer b
  | error e => exact .error rfl

theorem SameAnswer.symm {x y : Answer} (h : SameAnswer x y) : SameAnswer y x := by
  cases h with
  | answer b => exact .answer b
  | error h => exact .error h.symm

/-- The negations of answers in turn are the negated answers in turn, and the negated answer decides. -/
theorem SameAnswer.inTurn {x x' y y' : Answer} (hx : SameAnswer x' (x.map (!·)))
    (hy : SameAnswer y' (y.map (!·))) (decisive : Bool) :
    SameAnswer (Answer.inTurn (!decisive) x' y') ((Answer.inTurn decisive x y).map (!·)) := by
  cases x with
  | error e =>
    cases hx with
    | error h => exact .error h
  | ok b =>
    cases hx with
    | answer =>
      by_cases hb : b = decisive
      · simp only [Answer.inTurn, hb, if_true]
        exact .answer (!decisive)
      · have hnot : ¬(!b) = !decisive := by simpa using hb
        simp only [Answer.inTurn, hb, hnot, if_false]
        exact hy

theorem Number.exists_position {x : Number} (h : x ≠ nan) : ∃ a, x.position = some a := by
  cases x with
  | nan => exact absurd rfl h
  | infinite negative => exact ⟨_, rfl⟩
  | finite negative m => exact ⟨_, rfl⟩

/-- Numbers that have a place in the order are in one order or the other. -/
theorem Number.atMost_eq_not_less {x y : Number} (hx : x ≠ nan) (hy : y ≠ nan) :
    x.atMost y = !y.less x := by
  obtain ⟨a, ha⟩ := exists_position hx
  obtain ⟨b, hb⟩ := exists_position hy
  simp [atMost, less, ha, hb, ← decide_not]

/-- The numeric view of a value has a place in the order, unless the value is NaN itself. -/
theorem Value.number?_ne_nan {v : Value} (hv : v ≠ number .nan) {x : Number}
    (h : v.number? = some x) : x ≠ .nan := by
  rintro rfl
  cases v with
  | number y => exact hv (by rw [Option.some.inj h])
  | text s =>
    -- The text of a cell counts as a number only if that is finite.
    simp only [number?] at h
    split at h
    · split at h
      · rename_i y _ hfinite
        rw [Option.some.inj h] at hfinite
        cases hfinite
      · cases h
    · cases h
  | missing name => cases h

namespace Relation

/-- The answer of a relation between numbers. -/
def onNumbers : Relation → Number → Number → Answer
  | other s, _, _ => .error (.unknownRelation s)
  | r, x, y => .ok (r.holds x y)

/-- The answer of a relation between values that are not both numeric. -/
def onTexts : Relation → Value → Value → Answer
  | other s, _, _ => .error (.unknownRelation s)
  | equal, v, w => .ok (v.comparedText = w.comparedText)
  | different, v, w => .ok (v.comparedText ≠ w.comparedText)
  | r, v, w => .error (.notNumeric v.toText r w.toText)

/-- The complement of a relation between numbers holds where the relation does not. -/
theorem onNumbers_complement (r : Relation) {x y : Number} (hx : x ≠ .nan) (hy : y ≠ .nan) :
    SameAnswer (r.complement.onNumbers x y) ((r.onNumbers x y).map (!·)) := by
  have hxy := Number.atMost_eq_not_less hx hy
  have hyx := Number.atMost_eq_not_less hy hx
  cases r with
  | other s => exact .error rfl
  | _ =>
    simp only [complement, onNumbers, holds, hxy, hyx, Except.map, Bool.not_not]
    exact .answer _

theorem onTexts_complement (r : Relation) (v w : Value) :
    SameAnswer (r.complement.onTexts v w) ((r.onTexts v w).map (!·)) := by
  cases r with
  | equal =>
    simp only [complement, onTexts, Except.map, ne_eq, decide_not]
    exact .answer _
  | different =>
    simp only [complement, onTexts, Except.map, ne_eq, decide_not, Bool.not_not]
    exact .answer _
  | _ => exact .error rfl

end Relation

namespace Value

theorem compare_of_present {v w : Value} (hv : ∀ name, v ≠ missing name)
    (hw : ∀ name, w ≠ missing name) (r : Relation) :
    compare r v w =
      match v.number?, w.number? with
      | some x, some y => r.onNumbers x y
      | _, _ => r.onTexts v w := by
  unfold compare
  split
  · exact absurd rfl (hv _)
  · exact absurd rfl (hw _)
  · rcases v.number? with _ | x <;> rcases w.number? with _ | y <;> cases r <;> rfl

/-- Two values are compared as numbers or as texts, whatever the relation is, unless one is missing. -/
theorem compare_cases (v w : Value) :
    (∃ name, (v = missing name ∨ w = missing name) ∧
        ∀ r, compare r v w = .error (.missingField name)) ∨
      (∃ x y, v.number? = some x ∧ w.number? = some y ∧ ∀ r, compare r v w = r.onNumbers x y) ∨
      ∀ r, compare r v w = r.onTexts v w := by
  by_cases hv : ∃ name, v = missing name
  · obtain ⟨name, rfl⟩ := hv
    exact .inl ⟨name, .inl rfl, fun r => rfl⟩
  · by_cases hw : ∃ name, w = missing name
    · obtain ⟨name, rfl⟩ := hw
      refine .inl ⟨name, .inr rfl, fun r => ?_⟩
      cases v with
      | missing name => exact absurd ⟨name, rfl⟩ hv
      | _ => rfl
    · have hcompare := compare_of_present (not_exists.1 hv) (not_exists.1 hw)
      cases hx : v.number? with
      | none => exact .inr (.inr fun r => by rw [hcompare, hx])
      | some x =>
        cases hy : w.number? with
        | none => exact .inr (.inr fun r => by rw [hcompare, hx, hy])
        | some y => exact .inr (.inl ⟨x, y, rfl, rfl, fun r => by rw [hcompare, hx, hy]⟩)

/-- The complement of a relation holds where the relation does not. -/
theorem compare_complement (r : Relation) {v w : Value} (hv : v ≠ number .nan)
    (hw : w ≠ number .nan) : SameAnswer (compare r.complement v w) ((compare r v w).map (!·)) := by
  rcases compare_cases v w with ⟨name, -, h⟩ | ⟨x, y, hx, hy, h⟩ | h
  · rw [h, h]
    exact .error rfl
  · rw [h, h]
    exact r.onNumbers_complement (number?_ne_nan hv hx) (number?_ne_nan hw hy)
  · rw [h, h]
    exact r.onTexts_complement v w

end Value

/-- No cell of a row is NaN, so an operand is none unless it is written as one. -/
theorem Operand.valueOn_ne_nan {o : Operand} (ho : o ≠ .literal (.number .nan)) {row : Row} {v : Value}
    (h : o.valueOn row = .ok v) : v ≠ .number .nan := by
  cases o with
  | literal w =>
    intro hv
    exact ho (by rw [Except.ok.inj h, hv])
  | field name =>
    simp only [valueOn] at h
    split at h
    · rw [← Except.ok.inj h]
      exact Value.noConfusion
    · cases h

namespace Condition

theorem evaluate_compare_complement (r : Relation) {left right : Operand}
    (hleft : left ≠ .literal (.number .nan)) (hright : right ≠ .literal (.number .nan)) (row : Row) :
    SameAnswer ((compare r.complement left right).evaluate row)
      (((compare r left right).evaluate row).map (!·)) := by
  simp only [evaluate]
  cases hv : left.valueOn row with
  | error e => exact .error rfl
  | ok v =>
    cases hw : right.valueOn row with
    | error e => exact .error rfl
    | ok w =>
      exact Value.compare_complement r (Operand.valueOn_ne_nan hleft hv)
        (Operand.valueOn_ne_nan hright hw)

/-- **A negation can be pushed inward.** If no number in the condition is NaN, its negation has the
answer of a `NOT` in front of it on every row, or an error about the same field. -/
theorem evaluate_negate {c : Condition} (h : .literal (.number .nan) ∉ c.operands) (row : Row) :
    SameAnswer ((not c).evaluate row) (c.negate.evaluate row) := by
  suffices hnegate : SameAnswer (c.negate.evaluate row) ((c.evaluate row).map (!·)) by
    rw [evaluate_not]
    exact hnegate.symm
  induction c with
  | operand o =>
    rw [negate, evaluate_not]
    exact .refl _
  | compare r left right =>
    simp only [operands, List.mem_cons, List.not_mem_nil, or_false, not_or] at h
    exact evaluate_compare_complement r (Ne.symm h.1) (Ne.symm h.2) row
  | and left right ihleft ihright =>
    simp only [operands, List.mem_append, not_or] at h
    rw [negate, evaluate_or, evaluate_and]
    exact (ihleft h.1).inTurn (ihright h.2) false
  | or left right ihleft ihright =>
    simp only [operands, List.mem_append, not_or] at h
    rw [negate, evaluate_or, evaluate_and]
    exact (ihleft h.1).inTurn (ihright h.2) true
  | not inner _ =>
    -- The negation takes the `NOT` away, so nothing is left to be pushed inward.
    rw [negate, evaluate_not]
    cases inner.evaluate row with
    | ok b =>
      simp only [Except.map, Bool.not_not]
      exact .answer b
    | error e => exact .error rfl
  | unknown kind =>
    rw [negate, evaluate_not]
    exact .refl _

/-- A condition whose left side decides, and its negation, whose left side decides the other way. -/
theorem evaluate_negate_nested :
    let c : Condition := .and (.compare .less (.field "a") (.literal (.number (.ofRatio false 5 1))))
      (.or (.operand (.field "b")) (.not (.compare .equal (.field "c") (.literal (.text "x")))))
    let row : Row := ⟨[("a", "7")], [], none⟩
    .literal (.number .nan) ∉ c.operands ∧ (not c).evaluate row = .ok true ∧
      SameAnswer ((not c).evaluate row) (c.negate.evaluate row) := by
  intro c row
  have h : .literal (.number .nan) ∉ c.operands := by decide +kernel
  exact ⟨h, by decide +kernel, evaluate_negate h row⟩

end Condition

/-! ### Errors about fields -/

/-- An error about a field comes from a missing value that remembers its name. -/
theorem Value.missing_of_compare_error {r : Relation} {v w : Value} {e : EvalError} {name : String}
    (h : compare r v w = .error e) (hname : e.field? = some name) :
    v = missing name ∨ w = missing name := by
  rcases compare_cases v w with ⟨n, hmissing, heq⟩ | ⟨x, y, -, -, heq⟩ | heq
  · rw [heq] at h
    obtain rfl := Except.error.inj h
    obtain rfl := Option.some.inj hname
    exact hmissing
  · rw [heq] at h
    cases r <;> cases h
    cases hname
  · rw [heq] at h
    cases r <;> cases h <;> cases hname

theorem Value.missing_of_truth_error {v : Value} {e : EvalError} {name : String}
    (h : v.truth = .error e) (hname : e.field? = some name) : v = missing name := by
  unfold truth at h
  split at h
  · obtain rfl := Except.error.inj h
    rw [Option.some.inj hname]
  · split at h <;> cases h

theorem Answer.eq_error_of_inTurn {decisive : Bool} {x y : Answer} {e : EvalError}
    (h : inTurn decisive x y = .error e) : x = .error e ∨ y = .error e := by
  cases x with
  | error f => exact .inl h
  | ok b =>
    by_cases hb : b = decisive
    · simp only [inTurn, hb, if_true] at h
      cases h
    · simp only [inTurn, hb, if_false] at h
      exact .inr h

/-- The name is one of a field that the row does not have, or of a value that is missing from the
start. -/
def Wanting (row : Row) (os : List Operand) (name : String) : Prop :=
  (.field name ∈ os ∧ row.get? name = none) ∨ .literal (.missing name) ∈ os

section

variable {row : Row} {e : EvalError} {name : String}

theorem Wanting.mono {os ps : List Operand} (h : Wanting row os name) (hsub : os ⊆ ps) :
    Wanting row ps name :=
  h.imp (fun h => ⟨hsub h.1, h.2⟩) fun h => hsub h

theorem Operand.wanting_of_error {o : Operand} (h : o.valueOn row = .error e)
    (hname : e.field? = some name) : Wanting row [o] name := by
  cases o with
  | literal v => cases h
  | field n =>
    simp only [valueOn] at h
    split at h
    · cases h
    · obtain rfl := Except.error.inj h
      obtain rfl := Option.some.inj hname
      exact .inl ⟨List.mem_singleton_self _, ‹_›⟩

theorem Operand.wanting_of_missing {o : Operand} (h : o.valueOn row = .ok (.missing name)) :
    Wanting row [o] name := by
  cases o with
  | literal v =>
    rw [Except.ok.inj h]
    exact .inr (List.mem_singleton_self _)
  | field n =>
    simp only [valueOn] at h
    split at h <;> cases h

namespace Condition

/-- An error about a field is about one that the condition names and the row does not have. -/
theorem wanting_of_evaluate_error {c : Condition} (h : c.evaluate row = .error e)
    (hname : e.field? = some name) : Wanting row c.operands name := by
  induction c with
  | operand o =>
    rw [evaluate] at h
    rcases error_of_bind_eq_error h with hv | ⟨v, hv, htruth⟩
    · exact Operand.wanting_of_error hv hname
    · rw [Value.missing_of_truth_error htruth hname] at hv
      exact Operand.wanting_of_missing hv
  | compare r left right =>
    have hleft : Wanting row [left] name → Wanting row [left, right] name :=
      fun hwanting => hwanting.mono (List.subset_append_left [left] [right])
    have hright : Wanting row [right] name → Wanting row [left, right] name :=
      fun hwanting => hwanting.mono (List.subset_cons_self left [right])
    rw [evaluate] at h
    rcases error_of_bind_eq_error h with hv | ⟨v, hv, hrest⟩
    · exact hleft (Operand.wanting_of_error hv hname)
    · rcases error_of_bind_eq_error hrest with hw | ⟨w, hw, hcompare⟩
      · exact hright (Operand.wanting_of_error hw hname)
      · rcases Value.missing_of_compare_error hcompare hname with rfl | rfl
        · exact hleft (Operand.wanting_of_missing hv)
        · exact hright (Operand.wanting_of_missing hw)
  | and left right ihleft ihright =>
    rw [evaluate_and] at h
    rcases Answer.eq_error_of_inTurn h with h | h
    · exact (ihleft h).mono (List.subset_append_left _ _)
    · exact (ihright h).mono (List.subset_append_right _ _)
  | or left right ihleft ihright =>
    rw [evaluate_or] at h
    rcases Answer.eq_error_of_inTurn h with h | h
    · exact (ihleft h).mono (List.subset_append_left _ _)
    · exact (ihright h).mono (List.subset_append_right _ _)
  | not inner ih =>
    rw [evaluate_not] at h
    exact ih (eq_error_of_map h)
  | unknown kind =>
    obtain rfl := Except.error.inj h
    cases hname

end Condition

end

end RowAlert
