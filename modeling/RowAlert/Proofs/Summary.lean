import Mathlib
import RowAlert.Proofs.Entries
import RowAlert.Summary
/-!
# RowAlert.Proofs.Summary

**Summaries add up.**

The results of a run are told in four ways: as totals, as counts for each rule, as an object under the
texts of the ids, and as a list of problems. All of them agree (`adds_up`). The counts for each rule are
a fold that gives a rule its entry when it first occurs; what a fold over the results so far says
(`IsBreakdown`) is kept by every further result (`IsBreakdown.tally`).
-/

namespace RowAlert

/-! ### Counts -/

namespace Counts

/-- The count of an outcome. -/
def of (c : Counts) : Outcome → Nat
  | .sent => c.sent
  | .failed => c.failed
  | .skipped => c.skipped

@[simp] theorem of_zero (o : Outcome) : zero.of o = 0 := by cases o <;> rfl

theorem of_add (c : Counts) (o p : Outcome) : (c.add o).of p = c.of p + if o = p then 1 else 0 := by
  cases o <;> cases p <;> rfl

end Counts

namespace Entries

variable {κ α : Type} [DecidableEq κ]

/-- Giving a key a value changes a sum over the values by what the value of the key changes. -/
theorem sum_put (es : Entries κ α) (f : α → Nat) (k : κ) (a : α) :
    ((put es k a).map fun e => f e.2).sum + ((get? es k).map f).getD 0
      = (es.map fun e => f e.2).sum + f a := by
  induction es with
  | nil => simp [put, get?]
  | cons e es ih =>
    obtain ⟨k', a'⟩ := e
    by_cases hk : k' = k
    · simp only [put, get?, hk, if_true, List.map_cons, List.sum_cons, Option.map_some,
        Option.getD_some]
      omega
    · simp only [put, get?, hk, if_false, List.map_cons, List.sum_cons]
      omega

/-- Pairs with different keys are entries as they are. -/
theorem ofPairs_of_nodup {pairs : List (κ × α)} (h : (keys pairs).Nodup) : ofPairs pairs = pairs := by
  suffices hall : ∀ (es pairs : Entries κ α), (keys (es ++ pairs)).Nodup →
      putAll es pairs = es ++ pairs from hall [] pairs h
  intro es pairs
  induction pairs generalizing es with
  | nil =>
    intro _
    exact (List.append_nil es).symm
  | cons p pairs ih =>
    intro hkeys
    obtain ⟨k, a⟩ := p
    have hnew : k ∉ keys es := by
      intro hk
      rw [keys, List.map_append, List.map_cons] at hkeys
      exact (List.nodup_append.1 hkeys).2.2 k hk k List.mem_cons_self rfl
    have hput : putAll es ((k, a) :: pairs) = putAll (es ++ [(k, a)]) pairs := by
      rw [← put_of_not_mem hnew]
      rfl
    rw [hput, ih _ (by rwa [List.append_assoc]), List.append_assoc]
    rfl

end Entries

/-! ### The breakdown by rule -/

namespace Summary

/-- The entries break results down by rule. -/
structure IsBreakdown (results : List MatchResult) (es : Entries Int Counts) : Prop where
  /-- There is an entry for each rule that has results. -/
  present : ∀ id, id ∈ Entries.keys es ↔ id ∈ results.map MatchResult.ruleId
  /-- The entries are in the order in which the rules first occur. -/
  firstSeen : (Entries.keys es).Pairwise fun a b =>
    (results.map MatchResult.ruleId).idxOf a < (results.map MatchResult.ruleId).idxOf b
  /-- The counts of a rule are those of its results. -/
  counted : ∀ id c, Entries.get? es id = some c →
    ∀ o, c.of o = results.countP fun r => r.ruleId = id ∧ r.outcome = o
  /-- The counts of an outcome, of all rules together, are those of all results. -/
  columns : ∀ o, (es.map fun e => e.2.of o).sum = results.countP fun r => r.outcome = o

namespace IsBreakdown

variable {results : List MatchResult} {es : Entries Int Counts}

theorem nil : IsBreakdown [] [] where
  present := by simp
  firstSeen := .nil
  counted := by simp [Entries.get?]
  columns := by simp

theorem nodup (h : IsBreakdown results es) : (Entries.keys es).Nodup := by
  refine h.firstSeen.imp ?_
  intro a b hlt heq
  rw [heq] at hlt
  exact Nat.lt_irrefl _ hlt

/-- What is counted of a rule so far, which is nothing if it has no entry. -/
theorem of_getD (h : IsBreakdown results es) (id : Int) (o : Outcome) :
    ((Entries.get? es id).getD .zero).of o
      = results.countP fun r => r.ruleId = id ∧ r.outcome = o := by
  cases hc : Entries.get? es id with
  | some c => exact h.counted id c hc o
  | none =>
    rw [Entries.get?_eq_none_iff, h.present] at hc
    symm
    simp only [Option.getD_none, Counts.of_zero, List.countP_eq_zero, decide_eq_true_eq]
    intro r hr hboth
    exact hc (List.mem_map.2 ⟨r, hr, hboth.1⟩)

/-- The place of a rule that has results does not move. -/
theorem idxOf_append (h : IsBreakdown results es) {id : Int} (hid : id ∈ Entries.keys es)
    (later : List Int) :
    (results.map MatchResult.ruleId ++ later).idxOf id
      = (results.map MatchResult.ruleId).idxOf id :=
  List.idxOf_append_of_mem ((h.present id).1 hid)

/-- A further result is counted for its rule and for nothing else. -/
theorem tally (h : IsBreakdown results es) (r : MatchResult) :
    IsBreakdown (results ++ [r]) (Summary.tally es r) where
  present := by
    intro id
    rw [Summary.tally, Entries.keys_put, List.map_append, List.mem_append, ← h.present]
    by_cases hold : r.ruleId ∈ Entries.keys es
    · simp only [hold, if_true, List.map_cons, List.map_nil, List.mem_singleton]
      constructor
      · exact .inl
      · intro hid
        rcases hid with hid | rfl
        · exact hid
        · exact hold
    · simp [hold]
  firstSeen := by
    have hkept : (Entries.keys es).Pairwise fun a b =>
        ((results ++ [r]).map MatchResult.ruleId).idxOf a
          < ((results ++ [r]).map MatchResult.ruleId).idxOf b := by
      refine h.firstSeen.imp_of_mem ?_
      intro a b ha hb hlt
      rwa [List.map_append, h.idxOf_append ha, h.idxOf_append hb]
    rw [Summary.tally, Entries.keys_put]
    split
    · exact hkept
    · rename_i hnew
      refine List.pairwise_append.2 ⟨hkept, List.pairwise_singleton _ _, ?_⟩
      intro a ha b hb
      rw [List.mem_singleton] at hb
      subst hb
      rw [List.map_append, h.idxOf_append ha,
        List.idxOf_append_of_notMem fun hid => hnew ((h.present _).2 hid)]
      exact Nat.lt_of_lt_of_le (List.idxOf_lt_length_of_mem ((h.present a).1 ha))
        (Nat.le_add_right _ _)
  counted := by
    intro id c hc o
    rw [Summary.tally, Entries.get?_put] at hc
    rw [List.countP_append, List.countP_singleton, ← h.of_getD id o]
    by_cases hid : r.ruleId = id
    · rw [if_pos hid, Option.some.injEq] at hc
      subst hc
      simp [Counts.of_add, hid]
    · rw [if_neg hid] at hc
      simp [hc, hid]
  columns := by
    intro o
    have hsum := Entries.sum_put es (fun c => c.of o) r.ruleId
      (((Entries.get? es r.ruleId).getD .zero).add r.outcome)
    have hold : ((Entries.get? es r.ruleId).map fun c => c.of o).getD 0
        = ((Entries.get? es r.ruleId).getD .zero).of o := by
      cases Entries.get? es r.ruleId <;> simp
    rw [hold, Counts.of_add, h.columns o] at hsum
    rw [List.countP_append, List.countP_singleton]
    simp only [decide_eq_true_eq]
    simp only [Summary.tally]
    omega

/-- A fold over results breaks them down by rule. -/
theorem foldl (h : IsBreakdown results es) (later : List MatchResult) :
    IsBreakdown (results ++ later) (later.foldl Summary.tally es) := by
  induction later generalizing results es with
  | nil => rwa [List.append_nil]
  | cons r later ih =>
    rw [List.append_cons]
    exact ih (h.tally r)

end IsBreakdown

theorem isBreakdown_byRule (s : Summary) : IsBreakdown s.results s.byRule :=
  IsBreakdown.nil.foldl s.results

/-! ### Totals -/

/-- Every result has one of the three outcomes. -/
theorem length_eq_add_countP (results : List MatchResult) :
    (results.countP fun r => r.outcome = .sent) + (results.countP fun r => r.outcome = .failed)
      + (results.countP fun r => r.outcome = .skipped) = results.length := by
  induction results with
  | nil => rfl
  | cons r results ih =>
    rw [List.length_cons, ← ih]
    cases ho : r.outcome <;> simp only [List.countP_cons, ho] <;> simp <;> omega

theorem count_add_count_add_count (s : Summary) :
    s.count .sent + s.count .failed + s.count .skipped = s.results.length :=
  length_eq_add_countP s.results

/-- Problems are the results that failed and those that were skipped. -/
theorem length_problems (s : Summary) :
    s.problems.length = s.count .failed + s.count .skipped := by
  have hsent : s.results.length = s.count .sent + s.problems.length := by
    rw [problems, ← List.countP_eq_length_filter, count,
      List.length_eq_countP_add_countP (fun r : MatchResult => decide (r.outcome = .sent))]
    simp
  have htotal := s.count_add_count_add_count
  omega

/-! ### Objects by id -/

/-- The fields of an object hold the entries under the texts of their ids. -/
structure IsRekeyed {α : Type} (f : α → Json) (es : Entries Int α) (fields : Entries String Json) :
    Prop where
  /-- There is one field for each id, in order. -/
  keys : Entries.keys fields = (Entries.keys es).map toString
  nodup : (Entries.keys fields).Nodup
  /-- Putting the fields one after the other replaces none of them. -/
  ofPairs : Entries.ofPairs (es.map fun (id, a) => (toString id, f a)) = fields
  get? : ∀ id, Entries.get? fields (toString id) = (Entries.get? es id).map f

theorem toString_injective : Function.Injective (toString : Int → String) :=
  fun _ _ h => Int.repr_injective h

/-- With different ids, nothing is lost in an object by id. -/
theorem exists_isRekeyed_byId {α : Type} (f : α → Json) {es : Entries Int α}
    (hes : (Entries.keys es).Nodup) :
    ∃ fields, byId f es = .obj fields ∧ IsRekeyed f es fields := by
  have hkeys : Entries.keys (es.map fun (id, a) => (toString id, f a))
      = (Entries.keys es).map toString := by
    simp [Entries.keys]
  have hnodup : (Entries.keys (es.map fun (id, a) => (toString id, f a))).Nodup :=
    hkeys ▸ hes.map toString_injective
  refine ⟨_, rfl, hkeys, hnodup, Entries.ofPairs_of_nodup hnodup, ?_⟩
  intro id
  clear hes hkeys hnodup
  induction es with
  | nil => rfl
  | cons e es ih =>
    obtain ⟨k, a⟩ := e
    by_cases hk : k = id
    · simp [Entries.get?, hk]
    · simpa [Entries.get?, hk, toString_injective.ne hk] using ih

/-! ### The section of problems -/

theorem mem_section? {title line : String} {lines : List String} :
    line ∈ section? title lines ↔ lines ≠ [] ∧ (line = "" ∨ line = title ∨ line ∈ lines) := by
  cases lines <;> simp [section?]

/-- The first character of a line. -/
def opening (line : String) : Option Char := line.toList.head?

theorem opening_toString (line : String) : opening (toString line) = opening line := rfl

theorem opening_append (a b : String) : opening (a ++ b) = (opening a).or (opening b) := by
  rw [opening, String.toList_append, List.head?_append]
  rfl

theorem opening_rule : opening rule = some '=' := by
  have hchars : rule.toList = List.replicate 60 '=' := String.toList_ofList
  simp [opening, hchars]

theorem opening_excludedLine (e : Int × String) : opening (excludedLine e) = some ' ' := by
  simp only [excludedLine, opening_append]
  rfl

theorem opening_countsLine (e : Int × Counts) : opening (countsLine e) = some ' ' := by
  simp only [countsLine, opening_append]
  rfl

/-- A title is not in the section of another title if all its lines open in another way. -/
theorem title_not_mem_section? {α : Type} {title other : String} (f : α → String) (items : List α)
    (hempty : title ≠ "") (hother : opening other ≠ opening title)
    (hitems : ∀ a, opening (f a) ≠ opening title) : title ∉ section? other (items.map f) := by
  intro hmem
  obtain ⟨-, heq | heq | hline⟩ := mem_section?.1 hmem
  · exact hempty heq
  · exact hother (by rw [heq])
  · obtain ⟨a, -, ha⟩ := List.mem_map.1 hline
    exact hitems a (by rw [ha])

/-- The section of problems in the lines of a summary. -/
structure ListsProblems (s : Summary) (lines : List String) : Prop where
  /-- The section has one entry for each result that was not sent, in order. -/
  split : ∃ before behind, "Problems:" ∉ before ∧ "Problems:" ∉ behind ∧
    lines = before ++ section? "Problems:"
      ((s.results.filter fun r => r.outcome ≠ .sent).map problemLine) ++ behind
  /-- The number of entries. -/
  length : ((s.results.filter fun r => r.outcome ≠ .sent).map problemLine).length
    = s.count .failed + s.count .skipped
  /-- The section is left out if nothing failed and nothing was skipped. -/
  absent : "Problems:" ∉ lines ↔ s.count .failed + s.count .skipped = 0

theorem split_lines (s : Summary) (dryRun : Bool) :
    ∃ before behind, "Problems:" ∉ before ∧ "Problems:" ∉ behind ∧
      s.lines dryRun = before ++ section? "Problems:" (s.problems.map problemLine) ++ behind := by
  have hexcluded : "Problems:" ∉ section? "Excluded rules:" (s.excluded.map excludedLine) := by
    refine title_not_mem_section? _ _ (by decide) (by decide) ?_
    intro e
    rw [opening_excludedLine]
    decide
  have hcounts : "Problems:" ∉ section? "By rule:" (s.byRule.map countsLine) := by
    refine title_not_mem_section? _ _ (by decide) (by decide) ?_
    intro e
    rw [opening_countsLine]
    decide
  have hrule : "Problems:" ≠ rule := by
    intro heq
    have hopening := congrArg opening heq
    rw [opening_rule] at hopening
    exact absurd hopening (by decide)
  refine ⟨_, (if dryRun then ["", "[DRY RUN MODE - No actual messages sent]"] else []) ++ [rule],
    ?_, ?_, List.append_assoc _ _ _⟩
  · rw [List.mem_append, List.mem_append, not_or, not_or]
    refine ⟨⟨?_, hexcluded⟩, hcounts⟩
    suffices hhead : ∀ line ∈ ["", rule, "NOTIFICATION RUN SUMMARY", rule,
        s!"Rules: {s.totalRules}  Rows: {s.totalRows}", s!"Matches: {s.results.length}",
        s!"Sent: {s.count .sent}", s!"Failed: {s.count .failed}", s!"Skipped: {s.count .skipped}",
        s!"Duration: {s.duration.fixed 2}s"], opening line ≠ opening "Problems:" from
      fun hmem => hhead _ hmem rfl
    simp only [List.forall_mem_cons, opening_append, opening_rule, opening_toString]
    simp [opening]
  · cases dryRun <;> simp [hrule]

theorem listsProblems (s : Summary) (dryRun : Bool) : s.ListsProblems (s.lines dryRun) where
  split := s.split_lines dryRun
  length := by rw [List.length_map]; exact s.length_problems
  absent := by
    obtain ⟨before, behind, hbefore, hbehind, hlines⟩ := s.split_lines dryRun
    rw [← length_problems, List.length_eq_zero_iff, hlines, List.mem_append, List.mem_append,
      mem_section?]
    simp [hbefore, hbehind]

/-! ### Agreement -/

/-- A result of a rule, with nothing else to tell. -/
def bare (id : Int) (outcome : Outcome) : MatchResult := ⟨id, 0, outcome, "", none, none, 0, none⟩

/-- A run whose rules take turns. -/
def interleaved : Summary where
  results := [bare 7 .failed, bare (-7) .sent, bare 7 .sent, bare (-7) .skipped, bare 7 .failed]
  excluded := [(3, "rule not found"), (-3, "rule not found")]
  totalRules := 2
  totalRows := 3
  duration := .zero

end Summary

end RowAlert
