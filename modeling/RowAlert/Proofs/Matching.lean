import RowAlert.Matcher
import RowAlert.Proofs.Workers
/-!
# RowAlert.Proofs.Matching

**What the matcher finds.**

Matching is quiet, and its matches are those of the enabled rules whose conditions compile, in the
order of the rules, whichever way the workers share the rules (`run_quiet`). The memory of a matcher
changes nothing, as long as it holds what its texts compile to (`Faithful`); it does so at first,
and every use keeps it so.
-/

namespace RowAlert

namespace CompiledConditions

/-- What is remembered of a text is what the text compiles to. -/
def Faithful (memory : CompiledConditions) : Prop :=
  ∀ text c, Entries.get? memory text = some c → Condition.compile text = .ok c

theorem faithful_nil : Faithful [] := fun _ _ h => nomatch h

theorem Faithful.compile_eq {memory : CompiledConditions} (h : memory.Faithful) (text : String) :
    memory.compile text = Condition.compile text := by
  unfold compile
  split
  · rename_i c hc
    exact (h text c hc).symm
  · rfl

/-- A rule stands as it does without a memory. -/
theorem Faithful.standing_eq {memory : CompiledConditions} (h : memory.Faithful) (rule : Rule) :
    memory.standing rule = standing [] rule := by
  simp only [standing, h.compile_eq, faithful_nil.compile_eq]

theorem compile_of_eligible {memory : CompiledConditions} (h : memory.Faithful) {rule : Rule}
    {c : Condition} (hstanding : memory.standing rule = .eligible c) :
    Condition.compile rule.condition = .ok c := by
  simp only [standing, h.compile_eq] at hstanding
  split at hstanding
  · cases hstanding
  · split at hstanding
    · rename_i hcompile
      rw [hcompile, Standing.eligible.inj hstanding]
    · cases hstanding

/-- A condition that was compiled may be remembered. -/
theorem Faithful.remember {memory : CompiledConditions} (h : memory.Faithful) (rule : Rule) :
    (memory.remember rule (memory.standing rule)).Faithful := by
  cases hstanding : memory.standing rule with
  | disabled => exact h
  | excluded e => exact h
  | eligible c =>
    intro text c' hget
    rw [CompiledConditions.remember, Entries.get?_put] at hget
    split at hget
    · rename_i heq
      rw [← heq, ← Option.some.inj hget]
      exact compile_of_eligible h hstanding
    · exact h text c' hget

end CompiledConditions

namespace Matcher

open Session (Quiet)

variable {ω : Type}

/-- The matcher remembers what the texts of conditions compile to. -/
def Faithful (m : Matcher) : Prop := m.memory.Faithful

theorem faithful_fresh (workers : Workers) : (fresh workers).Faithful :=
  CompiledConditions.faithful_nil

/-- The rules that take part, from index `index` on. -/
def candidatesFrom : Nat → List Rule → List Candidate
  | _, [] => []
  | index, rule :: rules =>
    match CompiledConditions.standing [] rule with
    | .eligible c => ⟨index, rule, c⟩ :: candidatesFrom (index + 1) rules
    | _ => candidatesFrom (index + 1) rules

/-- The exclusions after some rules, those before them being `excluded`. -/
def exclusionsFrom : Entries Int String → List Rule → Entries Int String
  | excluded, [] => excluded
  | excluded, rule :: rules =>
    match CompiledConditions.standing [] rule with
    | .excluded e => exclusionsFrom (Entries.put excluded rule.id e.message) rules
    | _ => exclusionsFrom excluded rules

/-- An enabled rule whose condition compiles takes part. -/
theorem candidatesFrom_cons_of_ok {rule : Rule} {c : Condition} (henabled : rule.enabled = true)
    (hcompile : rule.compile = .ok c) (index : Nat) (rules : List Rule) :
    candidatesFrom index (rule :: rules) = ⟨index, rule, c⟩ :: candidatesFrom (index + 1) rules := by
  have hstanding : CompiledConditions.standing [] rule = .eligible c := by
    rw [Rule.compile] at hcompile
    simp only [CompiledConditions.standing, henabled, Bool.not_true, Bool.false_eq_true, if_false,
      CompiledConditions.faithful_nil.compile_eq, hcompile]
  simp only [candidatesFrom, hstanding]

/-- A rule that is disabled or whose condition does not compile takes no part. -/
theorem candidatesFrom_cons_of_not {rule : Rule}
    (h : rule.enabled = false ∨ ∃ e, rule.compile = .error e) (index : Nat) (rules : List Rule) :
    candidatesFrom index (rule :: rules) = candidatesFrom (index + 1) rules := by
  cases hstanding : CompiledConditions.standing [] rule with
  | disabled => simp only [candidatesFrom, hstanding]
  | excluded e => simp only [candidatesFrom, hstanding]
  | eligible c =>
    have hcompile := CompiledConditions.compile_of_eligible CompiledConditions.faithful_nil hstanding
    rcases h with hdisabled | ⟨e, he⟩
    · simp [CompiledConditions.standing, hdisabled] at hstanding
    · rw [Rule.compile, hcompile] at he
      cases he

theorem report_quiet (rule : Rule) (standing : Standing) :
    (report rule standing : Session ω Unit).Quiet () := by
  cases standing with
  | disabled => exact .notify _
  | excluded e => exact .notify _
  | eligible c => exact .pure ()

theorem selectFrom_quiet {m : Matcher} (hm : m.Faithful) (index : Nat) (rules : List Rule) :
    ∃ m' : Matcher, (selectFrom index m rules : Session ω _).Quiet (candidatesFrom index rules, m') ∧
      m'.Faithful ∧ m'.excluded = exclusionsFrom m.excluded rules := by
  induction rules generalizing index m with
  | nil => exact ⟨m, .pure _, hm, rfl⟩
  | cons rule rules ih =>
    have hremember := hm.remember rule
    have hstanding := hm.standing_eq rule
    rw [hstanding] at hremember
    unfold selectFrom candidatesFrom exclusionsFrom
    dsimp only
    rw [hstanding]
    generalize CompiledConditions.standing [] rule = standing at hremember ⊢
    cases standing with
    | disabled =>
      obtain ⟨m', hquiet, hm', hexcluded⟩ :=
        @ih { m with memory := m.memory.remember rule .disabled } hremember (index + 1)
      exact ⟨m', (report_quiet rule _).bind hquiet, hm', hexcluded⟩
    | excluded e =>
      obtain ⟨m', hquiet, hm', hexcluded⟩ :=
        @ih ⟨m.workers, m.memory.remember rule (.excluded e), Entries.put m.excluded rule.id e.message⟩
          hremember (index + 1)
      exact ⟨m', (report_quiet rule _).bind hquiet, hm', hexcluded⟩
    | eligible c =>
      obtain ⟨m', hquiet, hm', hexcluded⟩ :=
        @ih { m with memory := m.memory.remember rule (.eligible c) } hremember (index + 1)
      exact ⟨m', (report_quiet rule _).bind (hquiet.bind (.pure _)), hm', hexcluded⟩

theorem scan_quiet (rows : List Row) (c : Candidate) :
    (scan rows c : Session ω _).Quiet (matchesFrom c 0 rows) :=
  (Quiet.notifyAll _).bind (.pure _)

/-- The rules that were selected are scanned, in order. -/
theorem run_of_select {m m' : Matcher} {rules : List Rule} {candidates : List Candidate}
    (hselect : (selectFrom 0 { m with excluded := [] } rules : Session ω _).Quiet (candidates, m'))
    (rows : List Row) :
    (m.run rules rows : Session ω _).Quiet
      (candidates.flatMap fun c => matchesFrom c 0 rows, m') := by
  refine hselect.bind ?_
  have hgather := Workers.gather_quiet (scan_quiet (ω := ω) rows) m'.workers candidates
  refine hgather.bind ((Quiet.notify _).bind ?_)
  rw [← List.flatMap_def]
  exact .pure _

/-- Matching finds the matches of the rules that take part, in order, and the rules that do not
compile. -/
theorem run_quiet {m : Matcher} (hm : m.Faithful) (rules : List Rule) (rows : List Row) :
    ∃ m' : Matcher, (m.run rules rows : Session ω _).Quiet
        ((candidatesFrom 0 rules).flatMap fun c => matchesFrom c 0 rows, m') ∧
      m'.Faithful ∧ m'.excluded = exclusionsFrom [] rules := by
  obtain ⟨m', hselect, hm', hexcluded⟩ :=
    @selectFrom_quiet ω { m with excluded := [] } hm 0 rules
  exact ⟨m', run_of_select hselect rows, hm', hexcluded⟩

/-! ### Where matches come from -/

/-- All matches of rules and rows, in order. -/
def found (rules : List Rule) (rows : List Row) : List Match :=
  (candidatesFrom 0 rules).flatMap fun c => matchesFrom c 0 rows

theorem row_mem_of_matchesFrom {c : Candidate} {position : Nat} {rows : List Row} {m : Match}
    (h : m ∈ matchesFrom c position rows) : m.row ∈ rows := by
  induction rows generalizing position with
  | nil => cases h
  | cons row rows ih =>
    rcases List.mem_append.1 h with hfirst | hrest
    · have hrow : m.row = row := by
        unfold meet? at hfirst
        cases hevaluate : c.condition.evaluate row with
        | error e =>
          rw [hevaluate] at hfirst
          rw [List.mem_singleton.1 hfirst]
        | ok holds =>
          rw [hevaluate] at hfirst
          cases holds with
          | false => cases hfirst
          | true => rw [List.mem_singleton.1 hfirst]
      rw [hrow]
      exact List.mem_cons_self
    · exact List.mem_cons_of_mem _ (ih hrest)

theorem row_mem_of_found {rules : List Rule} {rows : List Row} {m : Match}
    (h : m ∈ found rules rows) : m.row ∈ rows := by
  obtain ⟨c, -, hm⟩ := List.mem_flatMap.1 h
  exact row_mem_of_matchesFrom hm

end Matcher

end RowAlert
