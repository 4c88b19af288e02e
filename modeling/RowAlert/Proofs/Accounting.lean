import RowAlert.Proofs.Matching
import RowAlert.Proofs.SendSlots
/-!
# RowAlert.Proofs.Accounting

**The account of a run**: what becomes of every rule and row.

The account (`Accounted`) goes through all pairs of a rule and a row in order. A pair of which its
rule is silent leaves no trace. Every other pair has one result, and only a rule that holds and has
a channel sends a message, which is told what it is about; the result says whether the channel took
it. The world passes through these sendings, one after the other, and through nothing else.

Design points:

* The account does not mention the dispatcher. That a run of a dispatcher is accounted for is proved
  match by match (`accounts_pair`), and accounts of parts are put together (`Accounts.append`).
* Channels are arbitrary. All that is asked of them is that they come back, for a call that does
  not would keep its send slot.
-/

namespace RowAlert

/-- What a rule says about a row. -/
inductive Verdict
  /-- Nothing: the rule is disabled, its condition does not compile, or it does not hold. -/
  | silent
  | holds
  /-- The condition has no truth value. -/
  | unclear (e : EvalError)

/-- What a rule says about a row. -/
def Rule.verdict (rule : Rule) (row : Row) : Verdict :=
  if rule.enabled then
    match rule.compile with
    | .error _ => .silent
    | .ok c =>
      match c.evaluate row with
      | .ok true => .holds
      | .ok false => .silent
      | .error e => .unclear e
  else .silent

/-- A rule that takes no part is silent. -/
theorem Rule.verdict_of_not {rule : Rule}
    (h : rule.enabled = false ∨ ∃ e, rule.compile = .error e) (row : Row) :
    rule.verdict row = .silent := by
  unfold verdict
  rcases h with hdisabled | ⟨e, he⟩
  · rw [hdisabled]
    rfl
  · rw [he]
    split <;> rfl

/-- All pairs of a rule and a row, in the order of the rules and for each rule of the rows. -/
def allPairs (rules : List Rule) (rows : List Row) : List (Rule × Row) :=
  rules.flatMap fun rule => rows.map fun row => (rule, row)

/-- A message that is sent, and the world that its channel finds. -/
structure Sending (ω : Type) where
  channel : Channel ω
  message : String
  metadata : Metadata
  before : ω

namespace Sending

variable {ω : Type}

/-- What the channel does. -/
def run (s : Sending ω) : Run ω (Ending Receipt) := s.channel.send s.message s.metadata s.before

/-- Does the channel report success? -/
def succeeds (s : Sending ω) : Bool :=
  match s.run.value with
  | .returned r => r.success
  | _ => false

/-- The message of a rule about a row, sent to the channel of the rule. -/
structure IsFor (s : Sending ω) (registry : Registry ω) (rule : Rule) (row : Row) : Prop where
  channel : registry.get rule.channel = .ok s.channel
  message : s.message = (Rendered.ofTemplate rule.message row row.index).text
  ruleId : Metadata.get s.metadata Metadata.ruleIdName = .int rule.id
  rowIndex : row.index.map Json.int = some (Metadata.get s.metadata Metadata.rowIndexName)
  row : Metadata.get s.metadata Metadata.rowName = .ofTexts row.fields

end Sending

/-- The result of a rule and a row. -/
structure MatchResult.IsFor (r : MatchResult) (rule : Rule) (row : Row) : Prop where
  ruleId : r.ruleId = rule.id
  rowIndex : row.index = some r.rowIndex

/-- The account of some pairs, from one world to another: their results, and what was sent. -/
inductive Accounted {ω : Type} (registry : Registry ω) :
    ω → List (Rule × Row) → List MatchResult → List (Sending ω) → ω → Prop
  | done (w : ω) : Accounted registry w [] [] [] w
  | silent {w w' : ω} {rule : Rule} {row : Row} {pairs : List (Rule × Row)}
      {results : List MatchResult} {sendings : List (Sending ω)}
      (h : rule.verdict row = .silent) (rest : Accounted registry w pairs results sendings w') :
      Accounted registry w ((rule, row) :: pairs) results sendings w'
  | skipped {w w' : ω} {rule : Rule} {row : Row} {pairs : List (Rule × Row)}
      {results : List MatchResult} {sendings : List (Sending ω)} {e : EvalError} {r : MatchResult}
      (h : rule.verdict row = .unclear e) (hr : r.IsFor rule row) (outcome : r.outcome = .skipped)
      (rest : Accounted registry w pairs results sendings w') :
      Accounted registry w ((rule, row) :: pairs) (r :: results) sendings w'
  | unsupported {w w' : ω} {rule : Rule} {row : Row} {pairs : List (Rule × Row)}
      {results : List MatchResult} {sendings : List (Sending ω)} {r : MatchResult}
      (h : rule.verdict row = .holds) (unregistered : registry.has rule.channel = false)
      (hr : r.IsFor rule row) (outcome : r.outcome = .failed)
      (error : r.errorName = some UnknownChannel.reportName)
      (rest : Accounted registry w pairs results sendings w') :
      Accounted registry w ((rule, row) :: pairs) (r :: results) sendings w'
  | sent {w' : ω} {rule : Rule} {row : Row} {pairs : List (Rule × Row)}
      {results : List MatchResult} {s : Sending ω} {sendings : List (Sending ω)} {r : MatchResult}
      (h : rule.verdict row = .holds) (hs : s.IsFor registry rule row) (hr : r.IsFor rule row)
      (outcome : r.outcome = if s.succeeds then .sent else .failed)
      (rest : Accounted registry s.run.world pairs results sendings w') :
      Accounted registry s.before ((rule, row) :: pairs) (r :: results) (s :: sendings) w'

/-- Accounts of parts make an account of the whole. -/
theorem Accounted.append {ω : Type} {registry : Registry ω} {w w' w'' : ω}
    {pairs pairs' : List (Rule × Row)} {results results' : List MatchResult}
    {sendings sendings' : List (Sending ω)} (h : Accounted registry w pairs results sendings w')
    (h' : Accounted registry w' pairs' results' sendings' w'') :
    Accounted registry w (pairs ++ pairs') (results ++ results') (sendings ++ sendings') w'' := by
  induction h with
  | done w => exact h'
  | silent h _ ih => exact .silent h (ih h')
  | skipped h hr outcome _ ih => exact .skipped h hr outcome (ih h')
  | unsupported h unregistered hr outcome error _ ih =>
    exact .unsupported h unregistered hr outcome error (ih h')
  | sent h hs hr outcome _ ih => exact .sent h hs hr outcome (ih h')

/-- A slot is free for a call that comes back. -/
structure SendSlots.Ready (s : SendSlots) : Prop where
  balanced : s.Balanced
  free : 0 < s.free

theorem SendSlots.ready_fresh {capacity : Nat} (h : 0 < capacity) : (fresh capacity).Ready :=
  ⟨balanced_fresh capacity, h⟩

namespace Dispatcher

variable {ω : Type}

/-- Every channel that is registered comes back from every call. -/
def Answers (registry : Registry ω) : Prop :=
  ∀ name channel, registry.get name = .ok channel → ∀ message metadata w,
    (channel.send message metadata w).value ≠ .hanging

/-- The call returns an account of these pairs, and a slot is free again. -/
def Accounts (registry : Registry ω) (x : Call (Desk ω) (List MatchResult))
    (pairs : List (Rule × Row)) : Prop :=
  ∀ desk : Desk ω, desk.slots.Ready → ∃ results effects w slots sendings,
    x desk = ⟨.returned results, effects, ⟨w, slots⟩⟩ ∧ slots.Ready ∧
      Accounted registry desk.world pairs results sendings w ∧
      Effect.outside effects = Effect.outside (sendings.flatMap fun s => s.run.effects)

variable {registry : Registry ω}

theorem accounts_nil : Accounts registry (pure []) [] := by
  rintro ⟨w, slots⟩ hslots
  exact ⟨[], [], w, slots, [], rfl, hslots, .done w, rfl⟩

theorem Accounts.append {x y : Call (Desk ω) (List MatchResult)} {pairs pairs' : List (Rule × Row)}
    (hx : Accounts registry x pairs) (hy : Accounts registry y pairs') :
    Accounts registry (do let rs ← x; let ss ← y; return rs ++ ss) (pairs ++ pairs') := by
  intro desk hslots
  obtain ⟨rs, effects, w, slots, sendings, hrun, hslots, haccount, houtside⟩ := hx desk hslots
  obtain ⟨rs', effects', w', slots', sendings', hrun', hslots', haccount', houtside'⟩ :=
    hy ⟨w, slots⟩ hslots
  refine ⟨rs ++ rs', effects ++ effects', w', slots', sendings ++ sendings', ?_, hslots',
    haccount.append haccount', ?_⟩
  · rw [Call.bind_of_returned hrun, Call.bind_of_returned hrun']
    simp
  · rw [Effect.outside_append, houtside, houtside', List.flatMap_append, Effect.outside_append]

/-- A pair of which the rule is silent needs no account. -/
theorem Accounts.silent {x : Call (Desk ω) (List MatchResult)} {rule : Rule} {row : Row}
    {pairs : List (Rule × Row)} (h : rule.verdict row = .silent) (hx : Accounts registry x pairs) :
    Accounts registry x ((rule, row) :: pairs) := by
  intro desk hslots
  obtain ⟨rs, effects, w, slots, sendings, hrun, hslots, haccount, houtside⟩ := hx desk hslots
  exact ⟨rs, effects, w, slots, sendings, hrun, hslots, .silent h haccount, houtside⟩

/-! ### One match -/

/-- A call that comes back leaves a slot free. -/
theorem ready_endedAs {s : SendSlots} (hs : s.Ready) {channel : Channel ω} {message : String}
    {metadata : Metadata} {w : ω} (hanswers : (channel.send message metadata w).value ≠ .hanging) :
    (endedAs s (channel.send message metadata w).value).Ready := by
  obtain ⟨hsteps, -⟩ := callChannel_of_free channel message metadata w hs.balanced hs.free
  refine ⟨SendSlots.steps_balanced hs.balanced hsteps, ?_⟩
  generalize (channel.send message metadata w).value = ending at hanswers ⊢
  cases ending with
  | returned r => exact Nat.succ_pos _
  | failed fault => exact Nat.succ_pos _
  | hanging => exact absurd rfl hanswers

/-- The result of a call tells whether the channel took the message. -/
theorem outcome_resultOf (d : Dispatcher ω) (rule : Rule) (b : MatchResult)
    (hb : b.outcome = .failed) (s : Sending ω) :
    (resultOf b (d.answerOf rule (endOf s.run.value))).outcome
      = if s.succeeds then .sent else .failed := by
  unfold Sending.succeeds
  cases s.run.value with
  | hanging => simp [endOf, answerOf, resultOf, withFault, hb]
  | failed fault =>
    by_cases htimeout : fault.isTimeout = true <;>
      simp [endOf, answerOf, resultOf, withFault, htimeout, hb]
  | returned r =>
    by_cases hsuccess : r.success = true <;>
      simp [endOf, answerOf, resultOf, withReceipt, hsuccess, hb]

/-- The result of a call is about the rule and row that the blank is about. -/
theorem isFor_resultOf {b : MatchResult} {rule : Rule} {row : Row} (hb : b.IsFor rule row)
    (answer : Except Fault Receipt) : (resultOf b answer).IsFor rule row := by
  cases answer with
  | error fault => exact ⟨hb.ruleId, hb.rowIndex⟩
  | ok r =>
    simp only [resultOf, withReceipt]
    split <;> exact ⟨hb.ruleId, hb.rowIndex⟩

theorem get_metadataOf (rule : Rule) (row : Row) (i : Int) (missing : List String) :
    Metadata.get (metadataOf rule row i missing) Metadata.ruleIdName = .int rule.id ∧
      Metadata.get (metadataOf rule row i missing) Metadata.rowIndexName = .int i ∧
      Metadata.get (metadataOf rule row i missing) Metadata.rowName = .ofTexts row.fields := by
  unfold metadataOf
  dsimp only
  split <;> exact ⟨rfl, rfl, rfl⟩

/-- The registry has no channel of a name that it does not give. -/
theorem has_of_get_error {name : String} {u : UnknownChannel} (h : registry.get name = .error u) :
    registry.has name = false := by
  unfold Registry.get at h
  unfold Registry.has Entries.has
  split at h
  · cases h
  · rename_i hnone
    rw [hnone]
    rfl

/-- Without a channel of this name the dispatcher only reports. -/
theorem dispatchAt_quiet (d : Dispatcher ω) {rule : Rule} (row : Row) (i : Int) {u : UnknownChannel}
    (hget : d.registry.get rule.channel = .error u) :
    (d.dispatchAt rule row i).Quiet
      (withoutChannel (blank rule i (Rendered.ofTemplate rule.message row (some i))) u) := by
  simp only [dispatchAt, hget]
  exact (Session.Quiet.notifyAll _).bind ((Session.Quiet.notify _).bind (.pure _))

/-- The message of a rule about a row with an index, and the world that its channel finds. -/
def sendingAt (channel : Channel ω) (rule : Rule) (row : Row) (i : Int) (w : ω) : Sending ω :=
  let rendered := Rendered.ofTemplate rule.message row (some i)
  ⟨channel, rendered.text, metadataOf rule row i rendered.missing, w⟩

/-- With a channel of this name and a free slot the dispatcher sends the message, and does nothing
else but report. -/
theorem dispatchAt_of_free (d : Dispatcher ω) {rule : Rule} (row : Row) (i : Int)
    {channel : Channel ω} (hget : d.registry.get rule.channel = .ok channel) (w : ω)
    {slots : SendSlots} (hslots : slots.Ready) :
    let s := sendingAt channel rule row i w
    let b := blank rule i (Rendered.ofTemplate rule.message row (some i))
    ∃ effects, d.dispatchAt rule row i ⟨w, slots⟩
        = ⟨resultOf b (d.answerOf rule (endOf s.run.value)), effects,
            ⟨s.run.world, endedAs slots s.run.value⟩⟩ ∧
      Effect.outside effects = Effect.outside s.run.effects := by
  intro s b
  have hcall : callChannel channel (Rendered.ofTemplate rule.message row (some i)).text
      (metadataOf rule row i (Rendered.ofTemplate rule.message row (some i)).missing) ⟨w, slots⟩
        = ⟨endOf s.run.value, s.run.effects, ⟨s.run.world, endedAs slots s.run.value⟩⟩ :=
    (callChannel_of_free channel s.message s.metadata w hslots.balanced hslots.free).2
  have hreport : Session.notifyAll (Rendered.ofTemplate rule.message row (some i)).notices
      (⟨w, slots⟩ : Desk ω) = ⟨(), _, ⟨w, slots⟩⟩ := rfl
  have hlast : ∀ n, Effect.outside (s.run.effects ++ [.notice n]) = Effect.outside s.run.effects := by
    intro n
    rw [Effect.outside_append]
    exact List.append_nil _
  refine ⟨(Rendered.ofTemplate rule.message row (some i)).notices.map .notice ++
    (s.run.effects ++ [.notice (noticeOf rule
      (resultOf b (d.answerOf rule (endOf s.run.value))) (d.answerOf rule (endOf s.run.value)))]),
    ?_, ?_⟩
  · simp only [dispatchAt, hget]
    rw [Session.bind_of_run hreport, Session.bind_of_run hcall]
    rfl
  · rw [Effect.outside_append, Effect.outside_notices, List.nil_append, hlast]

/-- A session with one result, as a call with a list of results. -/
theorem single_of_run {x : Session (Desk ω) MatchResult} {desk desk' : Desk ω} {r : MatchResult}
    {effects : List Effect} (h : x desk = ⟨r, effects, desk'⟩) :
    (do let r ← Call.ofSession x; return [r] : Call (Desk ω) _) desk
      = ⟨.returned [r], effects, desk'⟩ := by
  have hreturned : Call.ofSession x desk = ⟨.returned r, effects, desk'⟩ := by
    rw [Call.ofSession, h]
  rw [Call.bind_of_returned hreturned, Call.pure_apply, List.append_nil]

/-- Without a channel of this name nothing is sent. -/
theorem accounts_unsupported (d : Dispatcher ω) {rule : Rule} {row : Row} {i : Int}
    (hrow : row.index = some i) (hverdict : rule.verdict row = .holds) {u : UnknownChannel}
    (hget : d.registry.get rule.channel = .error u) :
    Accounts d.registry (do let r ← Call.ofSession (d.dispatchAt rule row i); return [r])
      [(rule, row)] := by
  rintro ⟨w, slots⟩ hslots
  have hquiet := d.dispatchAt_quiet row i hget
  exact ⟨_, _, w, slots, [], single_of_run (hquiet.run_eq ⟨w, slots⟩), hslots,
    .unsupported hverdict (has_of_get_error hget) ⟨rfl, hrow⟩ rfl rfl (.done w),
    hquiet.outside ⟨w, slots⟩⟩

/-- With a channel of this name the message is sent, once. -/
theorem accounts_sent (d : Dispatcher ω) (hanswers : Answers d.registry) {rule : Rule} {row : Row}
    {i : Int} (hrow : row.index = some i) (hverdict : rule.verdict row = .holds)
    {channel : Channel ω} (hget : d.registry.get rule.channel = .ok channel) :
    Accounts d.registry (do let r ← Call.ofSession (d.dispatchAt rule row i); return [r])
      [(rule, row)] := by
  rintro ⟨w, slots⟩ hslots
  obtain ⟨effects, hrun, houtside⟩ := d.dispatchAt_of_free row i hget w hslots
  have hs : (sendingAt channel rule row i w).IsFor d.registry rule row := by
    obtain ⟨hid, hindex, hcells⟩ := get_metadataOf rule row i
      (Rendered.ofTemplate rule.message row (some i)).missing
    refine ⟨hget, ?_, hid, ?_, hcells⟩
    · rw [hrow]
      rfl
    · rw [hrow, Option.map_some, sendingAt, hindex]
  refine ⟨_, effects, _, _, [sendingAt channel rule row i w], single_of_run hrun,
    ready_endedAs hslots (hanswers _ _ hget _ _ w),
    .sent hverdict hs (isFor_resultOf ⟨rfl, hrow⟩ _) (outcome_resultOf d rule _ rfl _) (.done _), ?_⟩
  rw [houtside, List.flatMap_singleton]

/-- A match that cannot be evaluated is skipped. -/
theorem accounts_skipped (d : Dispatcher ω) {found : Match} {e : EvalError} {rule : Rule} {row : Row}
    (hfound : (skipped found e).IsFor rule row) (hverdict : rule.verdict row = .unclear e) :
    Accounts d.registry (pure [skipped found e]) [(rule, row)] := by
  rintro ⟨w, slots⟩ hslots
  exact ⟨_, [], w, slots, [], rfl, hslots, .skipped hverdict hfound rfl (.done w), rfl⟩

/-! ### All matches -/

theorem mapM_settle_singleton (d : Dispatcher ω) (found : Match) :
    [found].mapM d.settle = (do let r ← d.settle found; return [r]) := by
  simp [List.mapM_cons]

/-- The match of one rule and one row, if there is one. -/
theorem accounts_pair (d : Dispatcher ω) (hanswers : Answers d.registry) {rule : Rule}
    {c : Condition} (henabled : rule.enabled = true) (hcompile : rule.compile = .ok c) {row : Row}
    (hrow : row.index.isSome) (index position : Nat) :
    Accounts d.registry
      ((Matcher.meet? ⟨index, rule, c⟩ position row).toList.mapM d.settle) [(rule, row)] := by
  obtain ⟨i, hrow⟩ := Option.isSome_iff_exists.1 hrow
  cases hevaluate : c.evaluate row with
  | error e =>
    have hverdict : rule.verdict row = .unclear e := by
      simp only [Rule.verdict, henabled, if_true, hcompile, hevaluate]
    have hmeet : Matcher.meet? ⟨index, rule, c⟩ position row
        = some ⟨index, i, rule, row, some e⟩ := by
      simp only [Matcher.meet?, hevaluate, hrow, Option.getD_some]
    rw [hmeet, Option.toList_some, mapM_settle_singleton, settle, pure_bind]
    exact accounts_skipped d ⟨rfl, hrow⟩ hverdict
  | ok holds =>
    cases holds with
    | false =>
      have hverdict : rule.verdict row = .silent := by
        simp only [Rule.verdict, henabled, if_true, hcompile, hevaluate]
      have hmeet : Matcher.meet? ⟨index, rule, c⟩ position row = none := by
        simp only [Matcher.meet?, hevaluate]
      rw [hmeet, Option.toList_none, List.mapM_nil]
      exact accounts_nil.silent hverdict
    | true =>
      have hverdict : rule.verdict row = .holds := by
        simp only [Rule.verdict, henabled, if_true, hcompile, hevaluate]
      have hmeet : Matcher.meet? ⟨index, rule, c⟩ position row
          = some ⟨index, i, rule, row, none⟩ := by
        simp only [Matcher.meet?, hevaluate, hrow, Option.getD_some]
      have hsettle : d.settle ⟨index, i, rule, row, none⟩
          = Call.ofSession (d.dispatchAt rule row i) := by
        simp only [settle, dispatch, hrow]
      rw [hmeet, Option.toList_some, mapM_settle_singleton, hsettle]
      cases hget : d.registry.get rule.channel with
      | error u => exact accounts_unsupported d hrow hverdict hget
      | ok channel => exact accounts_sent d hanswers hrow hverdict hget

/-- The matches of one rule that takes part. -/
theorem accounts_rule (d : Dispatcher ω) (hanswers : Answers d.registry) {rule : Rule}
    {c : Condition} (henabled : rule.enabled = true) (hcompile : rule.compile = .ok c)
    {rows : List Row} (hrows : ∀ row ∈ rows, row.index.isSome) (index position : Nat) :
    Accounts d.registry ((Matcher.matchesFrom ⟨index, rule, c⟩ position rows).mapM d.settle)
      (rows.map fun row => (rule, row)) := by
  induction rows generalizing position with
  | nil => exact accounts_nil
  | cons row rows ih =>
    obtain ⟨hrow, hrows⟩ := List.forall_mem_cons.1 hrows
    rw [Matcher.matchesFrom, List.mapM_append, List.map_cons]
    exact (accounts_pair d hanswers henabled hcompile hrow index position).append
      (ih hrows (position + 1))

/-- A rule that takes no part needs no account. -/
theorem Accounts.silent_rule {x : Call (Desk ω) (List MatchResult)} {pairs : List (Rule × Row)}
    {rule : Rule} (hrule : ∀ row, rule.verdict row = .silent) (rows : List Row)
    (hx : Accounts registry x pairs) :
    Accounts registry x (rows.map (fun row => (rule, row)) ++ pairs) := by
  induction rows with
  | nil => exact hx
  | cons row rows ih => exact ih.silent (hrule row)

/-- The matches of all rules, from index `index` on. -/
theorem accounts_rules (d : Dispatcher ω) (hanswers : Answers d.registry) {rows : List Row}
    (hrows : ∀ row ∈ rows, row.index.isSome) (rules : List Rule) (index : Nat) :
    Accounts d.registry
      (((Matcher.candidatesFrom index rules).flatMap fun c => Matcher.matchesFrom c 0 rows).mapM
        d.settle)
      (allPairs rules rows) := by
  -- A candidate keeps the index of its rule, so the index moves on past a rule that takes no part.
  induction rules generalizing index with
  | nil => exact accounts_nil
  | cons rule rules ih =>
    by_cases hpart : rule.enabled = true ∧ ∃ c, rule.compile = .ok c
    · obtain ⟨henabled, c, hcompile⟩ := hpart
      rw [Matcher.candidatesFrom_cons_of_ok henabled hcompile, List.flatMap_cons, List.mapM_append]
      exact (accounts_rule d hanswers henabled hcompile hrows index 0).append (ih (index + 1))
    · have hnot : rule.enabled = false ∨ ∃ e, rule.compile = .error e := by
        cases henabled : rule.enabled with
        | false => exact .inl rfl
        | true =>
          cases hcompile : rule.compile with
          | error e => exact .inr ⟨e, rfl⟩
          | ok c => exact absurd ⟨henabled, c, hcompile⟩ hpart
      rw [Matcher.candidatesFrom_cons_of_not hnot]
      exact (ih (index + 1)).silent_rule (Rule.verdict_of_not hnot) rows

/-! ### The run -/

/-- One worker settles the matches one after the other. -/
theorem settleAll_of_single {d : Dispatcher ω} (h : d.workers.count = 1) (found : List Match) :
    d.settleAll found = found.mapM d.settle :=
  Workers.gather_of_single h d.settle found

/-- What a run does once its matches are settled: it looks at the clock before and after, and
reports. -/
theorem run_eq_of_settled (d : Dispatcher ω) {m m' : Matcher} {rules : List Rule} {rows : List Row}
    {found : List Match} (hquiet : (m.run rules rows : Session (Desk ω) _).Quiet (found, m'))
    {desk desk' : Desk ω} {results : List MatchResult} {effects : List Effect}
    (hsettle : d.settleAll found ⟨(d.clock desk.world).2, desk.slots⟩
      = ⟨.returned results, effects, desk'⟩) :
    ∃ reports,
      d.run m rules rows desk
        = ⟨.returned ⟨results, m'.excluded, rules.length, rows.length,
            (d.clock desk'.world).1.minus (d.clock desk.world).1⟩, reports,
          ⟨(d.clock desk'.world).2, desk'.slots⟩⟩ ∧
      Effect.outside reports = Effect.outside effects := by
  have hnow : ∀ desk, Call.ofSession d.now desk
      = ⟨.returned (d.clock desk.world).1, [], ⟨(d.clock desk.world).2, desk.slots⟩⟩ :=
    fun _ => rfl
  have hsay : ∀ severity text (desk : Desk ω), Call.ofSession (say severity text) desk
      = ⟨.returned (), [.notice ⟨severity, .dispatching, text⟩], desk⟩ := fun _ _ _ => rfl
  refine ⟨?reports, ?run, ?outside⟩
  -- The reports are whatever the run turns out to report.
  case run =>
    simp only [run]
    rw [Call.bind_of_returned (hnow _), Call.bind_of_returned (hsay _ _ _),
      Call.bind_of_returned (Call.ofSession_of_quiet hquiet _)]
    dsimp only
    rw [Call.bind_of_returned hsettle, Call.bind_of_returned (hnow _),
      Call.bind_of_returned (hsay _ _ _)]
    rfl
  case outside =>
    rw [List.nil_append, Effect.outside_append, Effect.outside_append, hquiet.outside]
    simp [Effect.outside, Effect.isNotice]

/-- A run has the results of its matches. -/
theorem run_of_settled (d : Dispatcher ω) {m m' : Matcher} {rules : List Rule} {rows : List Row}
    {found : List Match} (hquiet : (m.run rules rows : Session (Desk ω) _).Quiet (found, m'))
    {desk desk' : Desk ω} {results : List MatchResult} {effects : List Effect}
    (hsettle : d.settleAll found ⟨(d.clock desk.world).2, desk.slots⟩
      = ⟨.returned results, effects, desk'⟩) :
    ∃ summary reports, summary.results = results ∧
      d.run m rules rows desk
        = ⟨.returned summary, reports, ⟨(d.clock desk'.world).2, desk'.slots⟩⟩ ∧
      Effect.outside reports = Effect.outside effects := by
  obtain ⟨reports, hrun, hreports⟩ := d.run_eq_of_settled hquiet hsettle
  exact ⟨_, reports, rfl, hrun, hreports⟩

/-- **Every run is accounted for.** A run of a dispatcher with one worker returns a summary, and its
results are the account of all pairs of a rule and a row. Between the two looks at the clock the
world passes through the sendings of the account and nothing else, and outside nothing is done but
what they do. A slot is free for the next run, as it is for the first. -/
theorem run_accounted (d : Dispatcher ω) (hsingle : d.workers.count = 1)
    (hanswers : Answers d.registry) {m : Matcher} (hm : m.Faithful) (rules : List Rule)
    {rows : List Row} (hrows : ∀ row ∈ rows, row.index.isSome) {desk : Desk ω}
    (hslots : desk.slots.Ready) :
    ∃ summary effects w slots sendings,
      d.run m rules rows desk = ⟨.returned summary, effects, ⟨(d.clock w).2, slots⟩⟩ ∧
      slots.Ready ∧
      Accounted d.registry (d.clock desk.world).2 (allPairs rules rows) summary.results sendings w ∧
      Effect.outside effects = Effect.outside (sendings.flatMap fun s => s.run.effects) := by
  obtain ⟨m', hquiet, -⟩ := @Matcher.run_quiet (Desk ω) m hm rules rows
  obtain ⟨results, effects, w, slots, sendings, hsettle, hready, haccount, houtside⟩ :=
    accounts_rules d hanswers hrows rules 0 ⟨(d.clock desk.world).2, desk.slots⟩ hslots
  rw [← settleAll_of_single hsingle] at hsettle
  obtain ⟨summary, reports, rfl, hrun, hreports⟩ := d.run_of_settled hquiet hsettle
  exact ⟨summary, reports, w, slots, sendings, hrun, hready, haccount, hreports.trans houtside⟩

/-- A channel that takes every message and counts them in the world. -/
def countingChannel : Channel Nat where
  name := "ops"
  label := "OpsChannel"
  policy := ⟨.bool true, .bool false, 0, .arr [], .zero⟩
  readiness := .ready
  send := fun _ _ w => ⟨.returned ⟨true, "ops", .null, none, 0, .null⟩, [], w + 1⟩

/-- A dispatcher with this channel, one worker and two send slots. -/
def countingDispatcher : Dispatcher Nat :=
  make (Registry.empty.insert "ops" countingChannel) 1 2 (.int 10) .inOrder fun w => (.zero, w)

theorem eq_countingChannel_of_get {name : String} {channel : Channel Nat}
    (h : countingDispatcher.registry.get name = .ok channel) : channel = countingChannel := by
  simp only [countingDispatcher, make, Registry.get, Registry.insert, Registry.empty, Entries.put,
    Entries.get?] at h
  split at h
  · rename_i found hfound
    split at hfound
    · rw [← Except.ok.inj h, Option.some.inj hfound]
    · cases hfound
  · cases h

/-- One rule that holds, cannot be evaluated and does not hold, one by one, on three rows; one rule
without a channel; and one that is disabled. -/
theorem run_accounted_counting :
    ∃ summary effects w slots sendings,
      countingDispatcher.run (.fresh (.ofCount 1 .inOrder))
        [⟨1, "ops", "state == 'hot'", "{state}", true⟩, ⟨2, "mail", "state", "", true⟩,
          ⟨3, "ops", "true", "", false⟩]
        [⟨[("state", "hot")], [], some 0⟩, ⟨[], [], some 1⟩, ⟨[("state", "cold")], [], some 2⟩]
        (countingDispatcher.desk 0) = ⟨.returned summary, effects, ⟨w, slots⟩⟩ ∧
      slots.Ready ∧
      Accounted countingDispatcher.registry 0
        (allPairs [⟨1, "ops", "state == 'hot'", "{state}", true⟩, ⟨2, "mail", "state", "", true⟩,
            ⟨3, "ops", "true", "", false⟩]
          [⟨[("state", "hot")], [], some 0⟩, ⟨[], [], some 1⟩, ⟨[("state", "cold")], [], some 2⟩])
        summary.results sendings w ∧
      Effect.outside effects = Effect.outside (sendings.flatMap fun s => s.run.effects) := by
  have hanswers : Answers countingDispatcher.registry := by
    intro name channel hget message metadata w
    rw [eq_countingChannel_of_get hget]
    intro h
    cases h
  exact run_accounted countingDispatcher rfl hanswers (Matcher.faithful_fresh _) _ (by decide)
    (SendSlots.ready_fresh (by decide))

end Dispatcher

end RowAlert
