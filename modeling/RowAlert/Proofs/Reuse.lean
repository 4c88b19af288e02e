import Mathlib.Data.List.Nodup
import RowAlert.Proofs.Entries
import RowAlert.Proofs.Matching
/-!
# RowAlert.Proofs.Reuse

**Using a matcher again.**

Two things outlast a use of a matcher: the conditions that it has compiled, and the rules that it has
excluded. The memory is faithful before and after every use, whatever rules come back
(`Matcher.Faithful`), and the exclusions are those of the last use. So each use is what it would be for
a matcher that was not used before, and it accounts for all of its rules (`useAll_forgets`): by
induction on the uses, each of which keeps the memory faithful (`exists_use`).
-/

namespace RowAlert

namespace Matcher

open Session (Quiet)

variable {ω : Type}

/-! ### Uses in turn -/

/-- A use of a matcher. -/
structure Use where
  rules : List Rule
  rows : List Row
  /-- The matcher before the use, with all that earlier uses left in it. -/
  before : Matcher
  found : List Match
  after : Matcher

/-- Uses a matcher for one list of rules and rows after the other. -/
def useAll : Matcher → List (List Rule × List Row) → Session ω (List Use)
  | _, [] => return []
  | before, (rules, rows) :: calls => do
    let (found, after) ← before.run rules rows
    let uses ← after.useAll calls
    return ⟨rules, rows, before, found, after⟩ :: uses

/-! ### Rules accounted for -/

/-- What is kept about a rule that is excluded: its id and what is wrong with its condition. -/
def exclusion? (rule : Rule) : Option (Int × String) :=
  if rule.enabled then
    match rule.compile with
    | .ok _ => none
    | .error e => some (rule.id, e.message)
  else none

/-- Exactly one of three statements is true. -/
def ExactlyOne (p q r : Prop) : Prop := (p ∧ ¬q ∧ ¬r) ∨ (¬p ∧ q ∧ ¬r) ∨ (¬p ∧ ¬q ∧ r)

/-- All rules of a use are accounted for, if `candidates` are those that were scanned. -/
structure Use.Accounts (u : Use) (candidates : List Candidate) : Prop where
  found : u.found = candidates.flatMap fun c => matchesFrom c 0 u.rows
  scanned : ∀ c ∈ candidates, u.rules[c.ruleIndex]? = some c.rule ∧ c.rule.compile = .ok c.condition
  /-- The exclusions are in the order of the rules, with their errors. -/
  excluded : u.after.excluded = u.rules.filterMap exclusion?
  excluded_iff : ∀ rule ∈ u.rules, rule.id ∈ u.after.excluded.keys ↔
    rule.enabled = true ∧ ∃ e, rule.compile = .error e
  once : ∀ (i : Nat) (rule : Rule), u.rules[i]? = some rule →
    ExactlyOne (rule.enabled = false) (rule.id ∈ u.after.excluded.keys)
      (∃ c ∈ candidates, c.ruleIndex = i)

/-! ### One use -/

section

variable {rule : Rule}

theorem standing_of_disabled (h : rule.enabled = false) :
    CompiledConditions.standing [] rule = .disabled := by
  simp [CompiledConditions.standing, h]

theorem standing_of_ok (h : rule.enabled = true) {c : Condition} (hcompile : rule.compile = .ok c) :
    CompiledConditions.standing [] rule = .eligible c := by
  rw [Rule.compile] at hcompile
  simp [CompiledConditions.standing, h, CompiledConditions.faithful_nil.compile_eq, hcompile]

theorem standing_of_error (h : rule.enabled = true) {e : ParseError}
    (hcompile : rule.compile = .error e) :
    CompiledConditions.standing [] rule = .excluded e := by
  rw [Rule.compile] at hcompile
  simp [CompiledConditions.standing, h, CompiledConditions.faithful_nil.compile_eq, hcompile]

/-- A rule is disabled, takes part, or is excluded. -/
theorem disabled_or_ok_or_error (rule : Rule) :
    rule.enabled = false ∨ (rule.enabled = true ∧ ∃ c, rule.compile = .ok c) ∨
      (rule.enabled = true ∧ ∃ e, rule.compile = .error e) := by
  cases henabled : rule.enabled with
  | false => exact .inl rfl
  | true =>
    cases hcompile : rule.compile with
    | ok c => exact .inr (.inl ⟨rfl, c, rfl⟩)
    | error e => exact .inr (.inr ⟨rfl, e, rfl⟩)

end

/-- The candidates are the rules that are enabled and compile, with their positions. -/
theorem mem_candidatesFrom {c : Candidate} {index : Nat} {rules : List Rule} :
    c ∈ candidatesFrom index rules ↔
      (c.rule, c.ruleIndex) ∈ rules.zipIdx index ∧ c.rule.enabled = true ∧
        c.rule.compile = .ok c.condition := by
  induction rules generalizing index with
  | nil => simp [candidatesFrom]
  | cons rule rules ih =>
    rw [List.zipIdx_cons, List.mem_cons, Prod.mk.injEq]
    rcases disabled_or_ok_or_error rule with
      hdisabled | ⟨henabled, condition, hok⟩ | ⟨henabled, e, herror⟩
    · rw [candidatesFrom_cons_of_not (.inl hdisabled), ih]
      refine and_congr_left fun h => (or_iff_right ?_).symm
      rintro ⟨rfl, -⟩
      cases hdisabled.symm.trans h.1
    · rw [candidatesFrom_cons_of_ok henabled hok, List.mem_cons, ih]
      constructor
      · rintro (rfl | ⟨hmem, hrest⟩)
        · exact ⟨.inl ⟨rfl, rfl⟩, henabled, hok⟩
        · exact ⟨.inr hmem, hrest⟩
      · rintro ⟨⟨hrule, hindex⟩ | hmem, hrest⟩
        · left
          obtain ⟨ruleIndex, rule', condition'⟩ := c
          obtain rfl : rule' = rule := hrule
          obtain rfl : ruleIndex = index := hindex
          obtain rfl : condition = condition' := Except.ok.inj (hok.symm.trans hrest.2)
          rfl
        · exact .inr ⟨hmem, hrest⟩
    · rw [candidatesFrom_cons_of_not (.inr ⟨e, herror⟩), ih]
      refine and_congr_left fun h => (or_iff_right ?_).symm
      rintro ⟨rfl, -⟩
      cases herror.symm.trans h.2

theorem exclusionsFrom_eq {excluded : Entries Int String} {rules : List Rule}
    (hids : (rules.map Rule.id).Nodup) (hfresh : ∀ rule ∈ rules, rule.id ∉ excluded.keys) :
    exclusionsFrom excluded rules = excluded ++ rules.filterMap exclusion? := by
  induction rules generalizing excluded with
  | nil => simp [exclusionsFrom]
  | cons rule rules ih =>
    obtain ⟨hid, hids⟩ := List.nodup_cons.1 hids
    have hrest := fun r hr => hfresh r (List.mem_cons_of_mem _ hr)
    rcases disabled_or_ok_or_error rule with
      hdisabled | ⟨henabled, condition, hok⟩ | ⟨henabled, e, herror⟩
    · have hexclusion : exclusion? rule = none := by simp [exclusion?, hdisabled]
      rw [List.filterMap_cons_none hexclusion, ← ih hids hrest, exclusionsFrom,
        standing_of_disabled hdisabled]
    · have hexclusion : exclusion? rule = none := by simp [exclusion?, hok]
      rw [List.filterMap_cons_none hexclusion, ← ih hids hrest, exclusionsFrom,
        standing_of_ok henabled hok]
    · have hexclusion : exclusion? rule = some (rule.id, e.message) := by
        simp [exclusion?, henabled, herror]
      have hput : Entries.put excluded rule.id e.message = excluded ++ [(rule.id, e.message)] :=
        Entries.put_of_not_mem (hfresh rule List.mem_cons_self) _
      rw [List.filterMap_cons_some hexclusion, exclusionsFrom, standing_of_error henabled herror]
      dsimp only
      rw [hput, ih hids, List.append_assoc, List.singleton_append]
      intro r hr hmem
      rw [Entries.keys, List.map_append, List.mem_append] at hmem
      rcases hmem with hmem | hmem
      · exact hrest r hr hmem
      · obtain heq : r.id = rule.id := List.mem_singleton.1 hmem
        exact hid (heq ▸ List.mem_map_of_mem hr)

/-- The rules that are excluded are those that are enabled and do not compile. -/
theorem mem_keys_exclusions {rules : List Rule} (hids : (rules.map Rule.id).Nodup) {rule : Rule}
    (hrule : rule ∈ rules) :
    rule.id ∈ Entries.keys (rules.filterMap exclusion?) ↔
      rule.enabled = true ∧ ∃ e, rule.compile = .error e := by
  constructor
  · intro hmem
    obtain ⟨entry, hentry, hid⟩ := List.mem_map.1 hmem
    obtain ⟨other, hother, hexclusion⟩ := List.mem_filterMap.1 hentry
    rcases disabled_or_ok_or_error other with hdisabled | ⟨-, condition, hok⟩ | ⟨henabled, e, herror⟩
    · simp [exclusion?, hdisabled] at hexclusion
    · simp [exclusion?, hok] at hexclusion
    · obtain rfl : (other.id, e.message) = entry := by
        simpa [exclusion?, henabled, herror] using hexclusion
      obtain rfl := List.inj_on_of_nodup_map hids hother hrule hid
      exact ⟨henabled, e, herror⟩
  · rintro ⟨henabled, e, herror⟩
    refine List.mem_map.2 ⟨(rule.id, e.message), List.mem_filterMap.2 ⟨rule, hrule, ?_⟩, rfl⟩
    simp [exclusion?, henabled, herror]

/-- A rule is scanned, if it is enabled and compiles. -/
theorem exists_candidate_iff {rules : List Rule} {i : Nat} {rule : Rule} (hi : rules[i]? = some rule) :
    (∃ c ∈ candidatesFrom 0 rules, c.ruleIndex = i) ↔
      rule.enabled = true ∧ ∃ condition, rule.compile = .ok condition := by
  constructor
  · rintro ⟨c, hc, rfl⟩
    obtain ⟨hmem, henabled, hok⟩ := mem_candidatesFrom.1 hc
    obtain rfl := Option.some.inj ((List.mem_zipIdx_iff_getElem?.1 hmem).symm.trans hi)
    exact ⟨henabled, _, hok⟩
  · rintro ⟨henabled, condition, hok⟩
    refine ⟨⟨i, rule, condition⟩, mem_candidatesFrom.2 ⟨?_, henabled, hok⟩, rfl⟩
    exact List.mem_zipIdx_iff_getElem?.2 hi

/-- The candidates of a use, and its exclusions, account for rules with different ids. -/
theorem accounts_of_eq {u : Use} (hids : (u.rules.map Rule.id).Nodup)
    (hfound : u.found = (candidatesFrom 0 u.rules).flatMap fun c => matchesFrom c 0 u.rows)
    (hexcluded : u.after.excluded = exclusionsFrom [] u.rules) :
    u.Accounts (candidatesFrom 0 u.rules) := by
  have hexclusions : u.after.excluded = u.rules.filterMap exclusion? :=
    hexcluded.trans (exclusionsFrom_eq hids fun _ _ => List.not_mem_nil)
  have hiff : ∀ rule ∈ u.rules, rule.id ∈ u.after.excluded.keys ↔
      rule.enabled = true ∧ ∃ e, rule.compile = .error e := by
    intro rule hrule
    rw [hexclusions]
    exact mem_keys_exclusions hids hrule
  refine ⟨hfound, ?_, hexclusions, hiff, ?_⟩
  · intro c hc
    obtain ⟨hmem, -, hok⟩ := mem_candidatesFrom.1 hc
    exact ⟨List.mem_zipIdx_iff_getElem?.1 hmem, hok⟩
  · intro i rule hi
    rw [hiff rule (List.mem_of_getElem? hi), exists_candidate_iff hi]
    rcases disabled_or_ok_or_error rule with
      hdisabled | ⟨henabled, condition, hok⟩ | ⟨henabled, e, herror⟩
    · exact .inl ⟨hdisabled, by simp [hdisabled], by simp [hdisabled]⟩
    · exact .inr (.inr ⟨by simp [henabled], by simp [hok], henabled, condition, hok⟩)
    · exact .inr (.inl ⟨by simp [henabled], ⟨henabled, e, herror⟩, by simp [herror]⟩)

/-! ### All uses -/

/-- A use that forgets the ones before it and accounts for its rules. -/
structure Use.Stands (u : Use) (ω : Type) : Prop where
  /-- A matcher that was not used before would find and exclude the same. -/
  forgets : ∀ (workers : Workers) (w : ω), ∃ m : Matcher,
    ((fresh workers).run u.rules u.rows w).value = (u.found, m) ∧ m.excluded = u.after.excluded
  accounts : (u.rules.map Rule.id).Nodup → ∃ candidates,
    (∀ w : ω, (selectFrom 0 { u.before with excluded := [] } u.rules w).value = (candidates, u.after)) ∧
      u.Accounts candidates

/-- One use of a matcher with a faithful memory. -/
theorem exists_use {m : Matcher} (hm : m.Faithful) (rules : List Rule) (rows : List Row) :
    ∃ (found : List Match) (after : Matcher),
      (m.run rules rows : Session ω _).Quiet (found, after) ∧ after.Faithful ∧
        Use.Stands ⟨rules, rows, m, found, after⟩ ω := by
  obtain ⟨after, hselect, hafter, hexcluded⟩ :=
    @selectFrom_quiet ω { m with excluded := [] } hm 0 rules
  refine ⟨_, after, run_of_select hselect rows, hafter, ?_, ?_⟩
  · intro workers w
    obtain ⟨m', hquiet, -, hm'⟩ := @run_quiet ω _ (faithful_fresh workers) rules rows
    exact ⟨m', hquiet.value w, hm'.trans hexcluded.symm⟩
  · intro hids
    exact ⟨_, hselect.value, accounts_of_eq hids rfl hexcluded⟩

/-- **A matcher forgets its earlier uses, and every rule is accounted for.** Whatever trees the rules
of a matcher bring with them, each of its uses finds and excludes what a matcher would that was not
used before. If the rules of the use have different ids, each of them is disabled, excluded or scanned,
and those that are excluded are the enabled ones that do not compile. -/
theorem useAll_forgets {m : Matcher} (hm : m.Faithful) (calls : List (List Rule × List Row)) (w : ω) :
    ((m.useAll calls w).value.map fun u => (u.rules, u.rows)) = calls ∧
      ∀ u ∈ (m.useAll calls w).value, u.Stands ω := by
  induction calls generalizing m w with
  | nil => exact ⟨rfl, fun _ h => nomatch h⟩
  | cons call calls ih =>
    obtain ⟨rules, rows⟩ := call
    obtain ⟨found, after, hquiet, hafter, hstands⟩ := @exists_use ω m hm rules rows
    obtain ⟨hcalls, hrest⟩ := ih hafter w
    have hvalue : (m.useAll ((rules, rows) :: calls) w).value =
        ⟨rules, rows, m, found, after⟩ :: (after.useAll calls w).value := by
      rw [useAll, Session.bind_of_run (hquiet.run_eq w)]
      rfl
    rw [hvalue]
    refine ⟨congrArg ((rules, rows) :: ·) hcalls, ?_⟩
    intro u hu
    rcases List.mem_cons.1 hu with rfl | hu
    · exact hstands
    · exact hrest u hu

/-- Rules that come back, one of them compiled before the first use, one malformed and one disabled. -/
theorem useAll_forgets_returning :
    let sound : Rule := ⟨1, "ops", "true", "m", true⟩
    let broken : Rule := ⟨2, "ops", "(", "m", true⟩
    let idle : Rule := ⟨3, "ops", "true", "m", false⟩
    let row : Row := ⟨[], [], some 0⟩
    let memory := CompiledConditions.remember [] sound (CompiledConditions.standing [] sound)
    let m : Matcher := ⟨.ofCount 2 .inOrder, memory, [(7, "stale")]⟩
    let calls := [([sound, broken, idle], [row]), ([idle, sound], [row, row]), ([broken], [row])]
    let uses := (m.useAll calls ()).value
    m.Faithful ∧ (uses.map fun u => (u.rules, u.rows)) = calls ∧ (∀ u ∈ uses, u.Stands Unit) ∧
      (uses.map fun u => (u.found.length, u.after.excluded.keys)) = [(1, [2]), (2, []), (0, [2])] := by
  intro sound broken idle row memory m calls uses
  have hm : m.Faithful := CompiledConditions.faithful_nil.remember sound
  obtain ⟨hcalls, hstands⟩ := useAll_forgets hm calls ()
  exact ⟨hm, hcalls, hstands, by decide +kernel⟩

end Matcher

end RowAlert
