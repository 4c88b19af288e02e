import RowAlert.Proofs.Settling
/-!
# RowAlert.Proofs.Parallel

**Several workers do what one worker does.**

If the answer of every channel is decided by the message it gets, the result of a match is decided
by the match, and so is what is sent for it (`settle_gives`). Workers that settle the matches in
another order then give the same results in the same places, and send the same messages in the order
in which they settle the matches (`settleAll_gives`). Matching finds the same matches in any case.

What a run sends is told by the worlds it passes through (`Passage`).
-/

namespace RowAlert

/-- A message on its way to a channel, whatever the world is. -/
structure Posting (ω : Type) where
  channel : Channel ω
  message : String
  metadata : Metadata

/-- A channel whose answer is decided by the message and what is told about it, and which always
comes back. -/
def Channel.Steady {ω : Type} (channel : Channel ω) : Prop :=
  ∀ message metadata, ∃ answer, ∀ w,
    (channel.send message metadata w).value = Ending.ofExcept answer

namespace Sending

variable {ω : Type}

def posting (s : Sending ω) : Posting ω := ⟨s.channel, s.message, s.metadata⟩

end Sending

namespace Dispatcher

variable {ω α β : Type}

/-! ### What is sent -/

/-- The call returns this value and sends these messages, whatever the world is. -/
def Gives (x : Call (Desk ω) α) (a : α) (posted : List (Posting ω)) : Prop :=
  ∀ desk : Desk ω, desk.slots.Ready → ∃ sent effects desk',
    x desk = ⟨.returned a, effects, desk'⟩ ∧ Passage desk sent effects desk' ∧
      sent.map Sending.posting = posted

theorem Gives.pure (a : α) : Gives (Pure.pure a : Call (Desk ω) α) a [] := by
  intro desk hslots
  exact ⟨[], [], desk, rfl, ⟨rfl, rfl, hslots⟩, rfl⟩

theorem Gives.bind {x : Call (Desk ω) α} {f : α → Call (Desk ω) β} {a : α} {b : β}
    {posted posted' : List (Posting ω)} (hx : Gives x a posted) (hf : Gives (f a) b posted') :
    Gives (x >>= f) b (posted ++ posted') := by
  intro desk hslots
  obtain ⟨ss, es, desk', hrun, hpassage, rfl⟩ := hx desk hslots
  obtain ⟨ss', es', desk'', hrun', hpassage', rfl⟩ := hf desk' hpassage.ready
  refine ⟨ss ++ ss', es ++ es', desk'', ?_, hpassage.append hpassage', List.map_append⟩
  rw [Call.bind_of_returned hrun, hrun']

theorem sequential_gives :
    Workers.Sequential (γ := Posting ω) fun _ (x : Call (Desk ω) _) b posted => Gives x b posted :=
  ⟨.pure, .bind⟩

/-! ### One match -/

/-- Every registered channel is steady. -/
def Steady (registry : Registry ω) : Prop :=
  ∀ name channel, registry.get name = .ok channel → channel.Steady

theorem Steady.answers {registry : Registry ω} (h : Steady registry) : Answers registry := by
  intro name channel hget message metadata w
  obtain ⟨answer, hanswer⟩ := h name channel hget message metadata
  rw [hanswer w]
  cases answer <;> simp [Ending.ofExcept]

/-- What is sent for a match: nothing if it cannot be evaluated or its channel is unknown. -/
def postings (d : Dispatcher ω) (found : Match) : List (Posting ω) :=
  match found.error, d.registry.get found.rule.channel with
  | none, .ok channel =>
    let rendered := Rendered.ofTemplate found.rule.message found.row (some (indexOf found))
    [⟨channel, rendered.text,
      metadataOf found.rule found.row (indexOf found) rendered.missing⟩]
  | _, _ => []

theorem postings_of_sendingsIn (d : Dispatcher ω) (w : ω) (found : Match) :
    (d.sendingsIn w found).map Sending.posting = d.postings found := by
  unfold sendingsIn postings
  cases found.error with
  | some e => rfl
  | none => cases d.registry.get found.rule.channel <;> rfl

/-- Steady channels give a match the same result in every world. -/
theorem resultIn_of_steady (d : Dispatcher ω) (hsteady : Steady d.registry) (v w : ω)
    (found : Match) : d.resultIn v found = d.resultIn w found := by
  cases herror : found.error with
  | some e => rw [d.resultIn_of_error _ herror, d.resultIn_of_error _ herror]
  | none =>
    cases hget : d.registry.get found.rule.channel with
    | error u => rw [d.resultIn_of_unknown _ herror hget, d.resultIn_of_unknown _ herror hget]
    | ok channel =>
      let s := sendingAt channel found.rule found.row (indexOf found) v
      obtain ⟨answer, hanswer⟩ := hsteady _ _ hget s.message s.metadata
      have hsame : s.run.value
          = (sendingAt channel found.rule found.row (indexOf found) w).run.value :=
        (hanswer v).trans (hanswer w).symm
      rw [d.resultIn_of_get _ herror hget, d.resultIn_of_get _ herror hget, ← hsame]

/-- A match is settled in the same way in every world. -/
theorem settle_gives (d : Dispatcher ω) (hsteady : Steady d.registry) (w : ω) {found : Match}
    (hrow : found.row.index.isSome) :
    Gives (d.settle found) (d.resultIn w found) (d.postings found) := by
  intro desk hslots
  obtain ⟨desk', effects, hrun, hpassage⟩ := d.settle_in hsteady.answers hrow hslots
  rw [d.resultIn_of_steady hsteady desk.world w found] at hrun
  exact ⟨_, effects, desk', hrun, hpassage, d.postings_of_sendingsIn desk.world found⟩

/-! ### All matches -/

/-- All matches are settled, their messages being sent in the order in which they are settled. -/
theorem settleAll_gives (d : Dispatcher ω) (hsteady : Steady d.registry) (w : ω)
    {found : List Match} (hrows : ∀ m ∈ found, m.row.index.isSome) (workers : Workers) :
    Gives ({ d with workers := workers }.settleAll found) (found.map (d.resultIn w))
      ((workers.sequence found).flatMap d.postings) := by
  have hwork : ∀ m ∈ found, Gives ({ d with workers := workers }.settle m) (d.resultIn w m)
      (d.postings m) :=
    fun m hm => settle_gives { d with workers := workers } hsteady w (hrows m hm)
  exact sequential_gives.gather hwork workers

/-- From this desk the matches have these results, and these messages are sent. -/
def Settles (d : Dispatcher ω) (found : List Match) (desk : Desk ω) (results : List MatchResult)
    (sent : List (Sending ω)) : Prop :=
  ∃ effects desk', d.settleAll found desk = ⟨.returned results, effects, desk'⟩ ∧
    Passage desk sent effects desk'

/-- From the last to the first. -/
def lastFirst : Schedule := ⟨fun n => (List.range n).reverse, fun _ => List.reverse_perm _⟩

end Dispatcher

end RowAlert
