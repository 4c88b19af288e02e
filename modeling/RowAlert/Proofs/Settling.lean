import RowAlert.Proofs.Accounting
/-!
# RowAlert.Proofs.Settling

**What a run does, match by match.**

A match is settled in some world, and that world decides its result (`resultIn`) and what is sent for
it (`sendingsIn`). Between two messages nobody touches the world, and a call that comes back gives its
slot back (`Passage`), so a run settles every match in a world that the messages before it left, with
any number of workers (`settleAll_in`, `run_in`). All that is asked of the channels is that they come
back.
-/

namespace RowAlert

namespace Sending

variable {ω : Type}

/-- The world passes through these sendings, one after the other, and is left as it is between
them. -/
def Chained : ω → List (Sending ω) → ω → Prop
  | w, [], w' => w = w'
  | w, s :: ss, w' => s.before = w ∧ Chained s.run.world ss w'

theorem Chained.append {w w' w'' : ω} {ss ss' : List (Sending ω)} (h : Chained w ss w')
    (h' : Chained w' ss' w'') : Chained w (ss ++ ss') w'' := by
  induction ss generalizing w with
  | nil =>
    obtain rfl : w = w' := h
    exact h'
  | cons s ss ih => exact ⟨h.1, ih h.2⟩

end Sending

namespace Dispatcher

variable {ω α β : Type}

/-! ### What is sent -/

/-- From one desk to another through these sendings. Outside nothing is done but what they do, and a
slot is free again. -/
structure Passage (desk : Desk ω) (sent : List (Sending ω)) (effects : List Effect)
    (desk' : Desk ω) : Prop where
  chained : Sending.Chained desk.world sent desk'.world
  outside : Effect.outside effects = Effect.outside (sent.flatMap fun s => s.run.effects)
  ready : desk'.slots.Ready

theorem Passage.append {desk desk' desk'' : Desk ω} {ss ss' : List (Sending ω)}
    {es es' : List Effect} (h : Passage desk ss es desk') (h' : Passage desk' ss' es' desk'') :
    Passage desk (ss ++ ss') (es ++ es') desk'' := by
  refine ⟨h.chained.append h'.chained, ?_, h'.ready⟩
  rw [Effect.outside_append, h.outside, h'.outside, List.flatMap_append, Effect.outside_append]

/-- From this desk the call returns a value and passes through these sendings to another desk. -/
def Passes (desk : Desk ω) (x : Call (Desk ω) α) (a : α) (sent : List (Sending ω))
    (desk' : Desk ω) : Prop :=
  ∃ effects, x desk = ⟨.returned a, effects, desk'⟩ ∧ Passage desk sent effects desk'

theorem Passes.pure {desk : Desk ω} (hslots : desk.slots.Ready) (a : α) :
    Passes desk (Pure.pure a) a [] desk :=
  ⟨[], rfl, rfl, rfl, hslots⟩

theorem Passes.bind {desk desk' desk'' : Desk ω} {x : Call (Desk ω) α} {f : α → Call (Desk ω) β}
    {a : α} {b : β} {sent sent' : List (Sending ω)} (hx : Passes desk x a sent desk')
    (hf : Passes desk' (f a) b sent' desk'') : Passes desk (x >>= f) b (sent ++ sent') desk'' := by
  obtain ⟨effects, hrun, hpassage⟩ := hx
  obtain ⟨effects', hrun', hpassage'⟩ := hf
  refine ⟨effects ++ effects', ?_, hpassage.append hpassage'⟩
  rw [Call.bind_of_returned hrun, hrun']

theorem Passes.ready {desk desk' : Desk ω} {x : Call (Desk ω) α} {a : α} {sent : List (Sending ω)}
    (h : Passes desk x a sent desk') : desk'.slots.Ready := by
  obtain ⟨_, _, hpassage⟩ := h
  exact hpassage.ready

theorem threaded_passes : Workers.Threaded (γ := Sending ω) (fun desk : Desk ω => desk.slots.Ready)
    fun _ desk x a sent desk' => Passes desk x a sent desk' :=
  ⟨.pure, .bind, Passes.ready⟩

/-! ### One match -/

/-- The index under which a match is sent: that of its row. -/
def indexOf (found : Match) : Int := found.row.index.getD found.rowIndex

/-- The result of a match, the channel being asked in this world. -/
def resultIn (d : Dispatcher ω) (w : ω) (found : Match) : MatchResult :=
  let rule := found.rule
  let i := indexOf found
  let b := blank rule i (Rendered.ofTemplate rule.message found.row (some i))
  match found.error, d.registry.get rule.channel with
  | some e, _ => skipped found e
  | none, .error u => withoutChannel b u
  | none, .ok channel =>
    resultOf b (d.answerOf rule (endOf (sendingAt channel rule found.row i w).run.value))

/-- What is sent for a match, the channel being asked in this world: nothing if the match cannot be
evaluated or its channel is unknown. -/
def sendingsIn (d : Dispatcher ω) (w : ω) (found : Match) : List (Sending ω) :=
  match found.error, d.registry.get found.rule.channel with
  | none, .ok channel => [sendingAt channel found.rule found.row (indexOf found) w]
  | _, _ => []

section

variable (d : Dispatcher ω) {found : Match} (w : ω)

theorem resultIn_of_error {e : EvalError} (herror : found.error = some e) :
    d.resultIn w found = skipped found e := by
  simp only [resultIn, herror]

theorem resultIn_of_unknown {u : UnknownChannel} (herror : found.error = none)
    (hget : d.registry.get found.rule.channel = .error u) :
    d.resultIn w found = withoutChannel (blank found.rule (indexOf found)
      (Rendered.ofTemplate found.rule.message found.row (some (indexOf found)))) u := by
  simp only [resultIn, herror, hget]

theorem resultIn_of_get {channel : Channel ω} (herror : found.error = none)
    (hget : d.registry.get found.rule.channel = .ok channel) :
    d.resultIn w found = resultOf (blank found.rule (indexOf found)
        (Rendered.ofTemplate found.rule.message found.row (some (indexOf found))))
      (d.answerOf found.rule
        (endOf (sendingAt channel found.rule found.row (indexOf found) w).run.value)) := by
  simp only [resultIn, herror, hget]

theorem sendingsIn_of_error {e : EvalError} (herror : found.error = some e) :
    d.sendingsIn w found = [] := by
  simp only [sendingsIn, herror]

theorem sendingsIn_of_unknown {u : UnknownChannel}
    (hget : d.registry.get found.rule.channel = .error u) : d.sendingsIn w found = [] := by
  simp only [sendingsIn, hget]
  cases found.error <;> rfl

theorem sendingsIn_of_get {channel : Channel ω} (herror : found.error = none)
    (hget : d.registry.get found.rule.channel = .ok channel) :
    d.sendingsIn w found = [sendingAt channel found.rule found.row (indexOf found) w] := by
  simp only [sendingsIn, herror, hget]

end

/-- A match has the result of the world it is settled in, and sends what is sent for it there. -/
theorem settle_in (d : Dispatcher ω) (hanswers : Answers d.registry) {found : Match}
    (hrow : found.row.index.isSome) {desk : Desk ω} (hslots : desk.slots.Ready) :
    ∃ desk', Passes desk (d.settle found) (d.resultIn desk.world found)
      (d.sendingsIn desk.world found) desk' := by
  obtain ⟨i, hi⟩ := Option.isSome_iff_exists.1 hrow
  have hindex : indexOf found = i := by rw [indexOf, hi, Option.getD_some]
  cases herror : found.error with
  | some e =>
    rw [d.resultIn_of_error _ herror, d.sendingsIn_of_error _ herror]
    simp only [settle, herror]
    exact ⟨desk, .pure hslots _⟩
  | none =>
    simp only [settle, dispatch, herror, hi]
    cases hget : d.registry.get found.rule.channel with
    | error u =>
      have hquiet := d.dispatchAt_quiet found.row i hget
      rw [d.resultIn_of_unknown _ herror hget, d.sendingsIn_of_unknown _ hget, hindex]
      exact ⟨desk, _, Call.ofSession_of_quiet hquiet desk, rfl, hquiet.outside desk, hslots⟩
    | ok channel =>
      rw [d.resultIn_of_get _ herror hget, d.sendingsIn_of_get _ herror hget, hindex]
      obtain ⟨w, slots⟩ := desk
      let s := sendingAt channel found.rule found.row i w
      obtain ⟨effects, hrun, houtside⟩ := d.dispatchAt_of_free found.row i hget w hslots
      have hready : (endedAs slots s.run.value).Ready :=
        ready_endedAs hslots (hanswers _ _ hget s.message s.metadata w)
      refine ⟨⟨s.run.world, endedAs slots s.run.value⟩, effects, ?_, ⟨rfl, rfl⟩, ?_, hready⟩
      · rw [Call.ofSession, hrun]
      · rw [houtside, List.flatMap_singleton]

/-! ### All matches -/

/-- Every match is settled in some world, and the messages are sent in the order in which the matches
are settled. -/
theorem settleAll_in (d : Dispatcher ω) (hanswers : Answers d.registry) {found : List Match}
    (hrows : ∀ m ∈ found, m.row.index.isSome) {desk : Desk ω} (hslots : desk.slots.Ready) :
    ∃ (steps : List (ω × Match)) (desk' : Desk ω), steps.map Prod.snd = found ∧
      Passes desk (d.settleAll found) (steps.map fun p => d.resultIn p.1 p.2)
        ((d.workers.sequence steps).flatMap fun p => d.sendingsIn p.1 p.2) desk' := by
  obtain ⟨steps, desk', hsteps, hpasses⟩ := threaded_passes.gather
    (f := fun desk m => d.resultIn desk.world m) (g := fun desk m => d.sendingsIn desk.world m)
    (fun m hm desk hready => d.settle_in hanswers (hrows m hm) hready) d.workers hslots
  refine ⟨steps.map fun p => (p.1.world, p.2), desk', ?_, ?_⟩
  · rw [List.map_map]
    exact hsteps
  · rw [Workers.sequence_map, List.map_map, List.flatMap_map]
    exact hpasses

/-- A run returns the results of all matches of its rules and rows. Outside nothing is done but what is
sent for them, and between the two looks at the clock the world passes through these sendings. -/
theorem run_in (d : Dispatcher ω) (hanswers : Answers d.registry) {m : Matcher} (hm : m.Faithful)
    (rules : List Rule) {rows : List Row} (hrows : ∀ row ∈ rows, row.index.isSome) {desk : Desk ω}
    (hslots : desk.slots.Ready) :
    ∃ (steps : List (ω × Match)) (summary : Summary) (effects : List Effect) (desk' : Desk ω),
      steps.map Prod.snd = Matcher.found rules rows ∧
      d.run m rules rows desk = ⟨.returned summary, effects, desk'⟩ ∧
      summary.results = (steps.map fun p => d.resultIn p.1 p.2) ∧
      summary.excluded = Matcher.exclusionsFrom [] rules ∧
      Effect.outside effects = Effect.outside
        (((d.workers.sequence steps).flatMap fun p => d.sendingsIn p.1 p.2).flatMap
          fun s => s.run.effects) ∧
      ∃ w, Sending.Chained (d.clock desk.world).2
        ((d.workers.sequence steps).flatMap fun p => d.sendingsIn p.1 p.2) w := by
  obtain ⟨m', hquiet, -, hexcluded⟩ := @Matcher.run_quiet (Desk ω) m hm rules rows
  have hfound : ∀ found ∈ Matcher.found rules rows, found.row.index.isSome :=
    fun found hmem => hrows _ (Matcher.row_mem_of_found hmem)
  obtain ⟨steps, desk', hsteps, effects, hsettle, hpassage⟩ :=
    @settleAll_in ω d hanswers _ hfound ⟨(d.clock desk.world).2, desk.slots⟩ hslots
  obtain ⟨reports, hrun, hreports⟩ := d.run_eq_of_settled hquiet hsettle
  exact ⟨steps, _, reports, _, hsteps, hrun, rfl, hexcluded, hreports.trans hpassage.outside, _,
    hpassage.chained⟩

end Dispatcher

end RowAlert
