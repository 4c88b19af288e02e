import RowAlert.Proofs.Channels
import RowAlert.Proofs.Retries
/-!
# RowAlert.Proofs.MailSessions

**What a mail channel says to its server, attempt by attempt.**

A mail session takes its steps in a fixed order (`Email.steps`) as far as they succeed, and what
came of it is one block of steps (`Block`). A transmission is one block (`exists_records_transmit`),
and a call is its blocks one after the other, of which only the last one can be whole. One more attempt
keeps this so (`unfolding_succ`), and all attempts follow by induction (`unfolding_of_records`). Nothing
confidential is said before a session is encrypted, because every block is a beginning of the same
sequence of steps (`secured_of_useTls`).
-/

namespace RowAlert

variable {ω α β : Type}

/-! ### Steps among effects -/

/-- The steps of mail sessions among effects. -/
def Effect.mailSteps (effects : List Effect) : List MailStep :=
  effects.filterMap fun
    | .mail step => some step
    | _ => none

@[simp] theorem Effect.mailSteps_append (es fs : List Effect) :
    mailSteps (es ++ fs) = mailSteps es ++ mailSteps fs :=
  List.filterMap_append

@[simp] theorem Effect.mailSteps_mail (steps : List MailStep) :
    mailSteps (steps.map .mail) = steps := by
  rw [mailSteps, List.filterMap_map]
  exact List.filterMap_some

/-- Does the step tell what only the server may know? -/
def MailStep.isConfidential : MailStep → Bool
  | login .. | send _ => true
  | _ => false

/-! ### Calls that say nothing to a server -/

namespace Call

/-- The call leaves the world as it is and takes no step of a mail session. -/
structure Offline (x : Call ω α) : Prop where
  world (w : ω) : (x w).world = w
  mailSteps (w : ω) : Effect.mailSteps (x w).effects = []

theorem offline_pure (a : α) : (pure a : Call ω α).Offline := ⟨fun _ => rfl, fun _ => rfl⟩

theorem offline_ofExcept (x : Except Fault α) : (ofExcept x : Call ω α).Offline :=
  ⟨fun _ => rfl, fun _ => rfl⟩

theorem Offline.bind {x : Call ω α} {f : α → Call ω β} (hx : x.Offline) (hf : ∀ a, (f a).Offline) :
    (x >>= f).Offline := by
  have hrun (w : ω) : ((x >>= f) w).world = w ∧ Effect.mailSteps ((x >>= f) w).effects = [] := by
    have hworld := hx.world w
    have hsteps := hx.mailSteps w
    rcases hrun : x w with ⟨ending, effects, w'⟩
    rw [hrun] at hworld hsteps
    cases ending with
    | returned a =>
      rw [bind_of_returned hrun, Effect.mailSteps_append, hsteps, (hf a).mailSteps, (hf a).world]
      exact ⟨hworld, rfl⟩
    | failed fault =>
      rw [bind_of_failed hrun]
      exact ⟨hworld, hsteps⟩
    | hanging =>
      rw [bind_of_hanging hrun]
      exact ⟨hworld, hsteps⟩
  exact ⟨fun w => (hrun w).1, fun w => (hrun w).2⟩

end Call

namespace Carrier

variable {π : Type} (c : Carrier ω π)

theorem say_offline (severity : Severity) (text : String) : (c.say severity text).Offline :=
  ⟨fun _ => rfl, fun _ => rfl⟩

theorem finish_offline (metadata : Metadata) (tried : Nat) (response : Json) :
    (c.finish metadata tried response).Offline := by
  unfold finish
  split
  · exact (c.say_offline _ _).bind fun _ => Call.offline_pure _
  · exact Call.offline_pure _

theorem giveUp_offline (metadata : Metadata) (last : Option Fault) :
    (c.giveUp metadata last).Offline :=
  (c.say_offline _ _).bind fun _ => Call.offline_pure _

theorem recover_offline (left tried : Nat) (fault : Fault) :
    (c.recover left tried fault).Offline := by
  unfold recover
  refine (c.say_offline _ _).bind fun _ => ?_
  split
  · refine (Call.offline_ofExcept _).bind fun delay => ?_
    cases delay with
    | none => exact Call.offline_pure ()
    | some seconds => exact ⟨fun _ => rfl, fun _ => rfl⟩
  · exact Call.offline_pure ()

/-- Nothing is said to a server about a message that cannot be prepared, and there is a receipt for it
only if no attempt was to be made. -/
theorem send_of_stops {c : Carrier ω π} (hready : c.readiness = .ready)
    (hdry : c.policy.dryRun.truthy = false) {message : String} {metadata : Metadata}
    (h : c.Stops message metadata) :
    (c.send message metadata).Offline ∧ ∀ w receipt,
      (c.send message metadata w).value = .returned receipt →
        receipt.success = false ∧ c.policy.maxRetries < 0 := by
  have hvalue (fault : Fault) (w : ω) (receipt : Receipt) :
      (Call.ofExcept (.error fault) w).value ≠ .returned receipt := by
    intro h
    cases h
  rw [send_of_ready hready hdry]
  rcases h with ⟨fault, hcompose⟩ | ⟨payload, fault, hcompose, htransmit, hrecovers⟩
  · rw [hcompose, Call.ofExcept_error_bind]
    exact ⟨Call.offline_ofExcept _, fun w receipt h => absurd h (hvalue fault w receipt)⟩
  · rw [hcompose, Call.ofExcept_ok_bind]
    cases hattempts : c.policy.attempts with
    | zero =>
      refine ⟨c.giveUp_offline metadata none, fun w receipt hreceipt => ?_⟩
      obtain rfl := Ending.returned.inj hreceipt
      refine ⟨rfl, ?_⟩
      simp only [Policy.attempts] at hattempts
      omega
    | succ left =>
      rw [c.attemptFrom_of_fault htransmit hrecovers]
      exact ⟨Call.offline_ofExcept _, fun w receipt h => absurd h (hvalue fault w receipt)⟩

/-! ### Attempts by their outcomes -/

section

variable {c} {payload : π} {metadata : Metadata} {w : ω}

theorem attemptFrom_of_returned {response : Json}
    (h : (c.transmit payload metadata w).value = .returned response) (left tried : Nat)
    (last : Option Fault) :
    c.attemptFrom payload metadata (left + 1) tried last w =
      (c.finish metadata tried response (c.transmit payload metadata w).world).behind
        (c.transmit payload metadata w).effects := by
  have hcatching := Call.catching_run c.recovers (c.transmit payload metadata) w
  rw [h, Ending.caught] at hcatching
  rw [attemptFrom_succ, Call.bind_of_returned hcatching, proceed]
  rfl

theorem attemptFrom_of_recovered {fault : Fault}
    (h : (c.transmit payload metadata w).value = .failed fault) (hrecovers : c.recovers fault = true)
    (left tried : Nat) (last : Option Fault) :
    c.attemptFrom payload metadata (left + 1) tried last w =
      ((c.recover left tried fault >>= fun _ =>
          c.attemptFrom payload metadata left (tried + 1) (some fault))
        (c.transmit payload metadata w).world).behind (c.transmit payload metadata w).effects := by
  have hcatching := Call.catching_run c.recovers (c.transmit payload metadata) w
  rw [h, Ending.caught, if_pos hrecovers] at hcatching
  rw [attemptFrom_succ, Call.bind_of_returned hcatching, proceed]
  rfl

theorem attemptFrom_of_foreign {fault : Fault}
    (h : (c.transmit payload metadata w).value = .failed fault)
    (hrecovers : ¬c.recovers fault = true) (left tried : Nat) (last : Option Fault) :
    c.attemptFrom payload metadata (left + 1) tried last w =
      ⟨.failed fault, (c.transmit payload metadata w).effects,
        (c.transmit payload metadata w).world⟩ := by
  have hcatching := Call.catching_run c.recovers (c.transmit payload metadata) w
  rw [h, Ending.caught, if_neg hrecovers] at hcatching
  rw [attemptFrom_succ, Call.bind_of_failed hcatching]

theorem attemptFrom_of_hanging (h : (c.transmit payload metadata w).value = .hanging)
    (left tried : Nat) (last : Option Fault) :
    c.attemptFrom payload metadata (left + 1) tried last w =
      ⟨.hanging, (c.transmit payload metadata w).effects,
        (c.transmit payload metadata w).world⟩ := by
  have hcatching := Call.catching_run c.recovers (c.transmit payload metadata) w
  rw [h, Ending.caught] at hcatching
  rw [attemptFrom_succ, Call.bind_of_hanging hcatching]

end

end Carrier

/-! ### What the server answers -/

/-- How a call ends, whatever its value is. -/
def Ending.outline : Ending α → Ending Unit
  | returned _ => returned ()
  | failed fault => failed fault
  | hanging => hanging

namespace Transport

/-- The world `w` answers these steps, one after the other, in this way, and is then `w'`. -/
def Replies (t : Transport ω) : List (MailStep × Ending Unit) → ω → ω → Prop
  | [], w, w' => w = w'
  | (step, ending) :: rest, w, w' => ∃ next, t.mail step w = (ending, next) ∧ t.Replies rest next w'

variable {t : Transport ω} {first rest : List (MailStep × Ending Unit)} {w w' w'' : ω}

theorem Replies.append (h : t.Replies first w w') (h' : t.Replies rest w' w'') :
    t.Replies (first ++ rest) w w'' := by
  induction first generalizing w with
  | nil =>
    obtain rfl : w = w' := h
    exact h'
  | cons answer first ih =>
    obtain ⟨next, hnext, hrest⟩ := h
    exact ⟨next, hnext, ih hrest⟩

/-- Takes steps of a mail session as long as they succeed. -/
def stepAll (t : Transport ω) : List MailStep → Call ω Unit
  | [] => pure ()
  | step :: steps => do
    t.step step
    t.stepAll steps

theorem step_run {step : MailStep} {ending : Ending Unit} (h : t.mail step w = (ending, w')) :
    t.step step w = ⟨ending, [.mail step], w'⟩ := by
  rw [Transport.step, Call.perform, h]

end Transport

namespace Email

/-! ### Blocks of steps -/

/-- What came of a mail session with these steps. -/
inductive Block (steps : List MailStep)
  /-- Every step succeeded. -/
  | whole
  /-- A step failed, and those before it had succeeded. -/
  | cut (before : List MailStep) (step : MailStep) (after : List MailStep) (fault : Fault)
      (h : steps = before ++ step :: after)
  /-- A step never came back, and those before it had succeeded. -/
  | stuck (before : List MailStep) (step : MailStep) (after : List MailStep)
      (h : steps = before ++ step :: after)

namespace Block

variable {steps : List MailStep}

/-- The steps that were taken. A session that was connected is quit, unless it never came back. -/
def events : Block steps → List MailStep
  | whole => steps ++ [.quit]
  | cut [] step .. => [step]
  | cut (first :: before) step .. => first :: before ++ [step, .quit]
  | stuck before step .. => before ++ [step]

/-- The steps that were asked for, with their answers. -/
def dialogue : Block steps → List (MailStep × Ending Unit)
  | whole => steps.map (·, .returned ())
  | cut before step _ fault _ => before.map (·, .returned ()) ++ [(step, .failed fault)]
  | stuck before step .. => before.map (·, .returned ()) ++ [(step, .hanging)]

/-- How the session ended. -/
def ending : Block steps → Ending Unit
  | whole => .returned ()
  | cut _ _ _ fault _ => .failed fault
  | stuck .. => .hanging

/-- Nothing confidential is said before encryption was asked for and granted. -/
def Secured (b : Block steps) : Prop :=
  ∀ (i : Nat) (step : MailStep), b.events[i]? = some step → step.isConfidential = true →
    ∃ j < i, b.events[j]? = some .secure ∧ b.dialogue[j]? = some (.secure, .returned ())

theorem eq_whole_of_ending {b : Block steps} (h : b.ending = .returned ()) : b = .whole := by
  cases b with
  | whole => rfl
  | cut => cases h
  | stuck => cases h

/-- The block with one more step that succeeded before it. -/
def behind (first : MailStep) : Block steps → Block (first :: steps)
  | whole => whole
  | cut before step after fault h => cut (first :: before) step after fault (congrArg (first :: ·) h)
  | stuck before step after h => stuck (first :: before) step after (congrArg (first :: ·) h)

theorem ending_behind (first : MailStep) (b : Block steps) : (b.behind first).ending = b.ending := by
  cases b <;> rfl

theorem dialogue_behind (first : MailStep) (b : Block steps) :
    (b.behind first).dialogue = (first, .returned ()) :: b.dialogue := by
  cases b <;> rfl

/-- What is said last in a session that was connected. -/
def closing : Block steps → List MailStep
  | stuck .. => []
  | _ => [.quit]

theorem events_behind (first : MailStep) (b : Block steps) :
    (b.behind first).events = first :: b.dialogue.map Prod.fst ++ b.closing := by
  cases b <;> simp [behind, events, dialogue, closing, Function.comp_def]

/-- Everything that was said was asked for, but for the end. -/
theorem exists_last_of_events (b : Block steps) :
    ∃ last, (last = [] ∨ last = [.quit]) ∧ b.events = b.dialogue.map Prod.fst ++ last := by
  rcases b with _ | ⟨_ | ⟨first, before⟩, step, after, fault, h⟩ | ⟨before, step, after, h⟩
  · exact ⟨[.quit], .inr rfl, by simp [events, dialogue, Function.comp_def]⟩
  · exact ⟨[], .inl rfl, rfl⟩
  · exact ⟨[.quit], .inr rfl, by simp [events, dialogue, Function.comp_def]⟩
  · exact ⟨[], .inl rfl, by simp [events, dialogue, Function.comp_def]⟩

theorem events_of_dialogue {b : Block steps} {i : Nat} {answer : MailStep × Ending Unit}
    (h : b.dialogue[i]? = some answer) : b.events[i]? = some answer.1 := by
  obtain ⟨last, -, hevents⟩ := b.exists_last_of_events
  obtain ⟨hi, -⟩ := List.getElem?_eq_some_iff.1 h
  rw [hevents, List.getElem?_append_left (by simpa using hi), List.getElem?_map, h]
  rfl

/-- The end of a session is not confidential, so what is confidential was asked for. -/
theorem exists_answer_of_confidential {b : Block steps} {i : Nat} {step : MailStep}
    (h : b.events[i]? = some step) (hsecret : step.isConfidential = true) :
    ∃ answer, b.dialogue[i]? = some answer ∧ answer.1 = step := by
  obtain ⟨last, hlast, hevents⟩ := b.exists_last_of_events
  rw [hevents, List.getElem?_append] at h
  split at h
  · simpa using h
  · obtain rfl | rfl := hlast
    · cases h
    · obtain rfl : step = .quit := by simpa using List.mem_of_getElem? h
      cases hsecret

/-- Steps that succeeded, and one behind them. -/
theorem succeeded_of_getElem? {before : List MailStep} {step : MailStep} {e : Ending Unit}
    (after : List MailStep) {i : Nat} {answer : MailStep × Ending Unit}
    (h : (before.map (·, .returned ()) ++ [(step, e)])[i]? = some answer) :
    (before ++ step :: after)[i]? = some answer.1 ∧
      ∀ j < i, ∃ s, (before ++ step :: after)[j]? = some s ∧
        (before.map (·, .returned ()) ++ [(step, e)])[j]? = some (s, .returned ()) := by
  have hbefore {j : Nat} (hj : j < before.length) :
      (before ++ step :: after)[j]? = some before[j] ∧
        (before.map (·, .returned ()) ++ [(step, e)])[j]? = some (before[j], .returned ()) := by
    constructor
    · rw [List.getElem?_append_left hj, List.getElem?_eq_getElem hj]
    · rw [List.getElem?_append_left (by rwa [List.length_map]), List.getElem?_map,
        List.getElem?_eq_getElem hj]
      rfl
  have hi : i < before.length + 1 := by simpa using (List.getElem?_eq_some_iff.1 h).1
  constructor
  · rcases Nat.lt_or_eq_of_le (Nat.le_of_lt_succ hi) with hlt | rfl
    · obtain rfl := Option.some.inj ((hbefore hlt).2.symm.trans h)
      exact (hbefore hlt).1
    · obtain rfl : (step, e) = answer := by simpa using h
      simp
  · intro j hj
    exact ⟨_, hbefore (Nat.lt_of_lt_of_le hj (Nat.le_of_lt_succ hi))⟩

/-- A step that is asked for stands at its place, and those before it succeeded. -/
theorem succeeded_of_dialogue (b : Block steps) {i : Nat} {answer : MailStep × Ending Unit}
    (h : b.dialogue[i]? = some answer) :
    steps[i]? = some answer.1 ∧
      ∀ j < i, ∃ s, steps[j]? = some s ∧ b.dialogue[j]? = some (s, .returned ()) := by
  rcases b with _ | ⟨before, step, after, fault, rfl⟩ | ⟨before, step, after, rfl⟩
  · obtain ⟨hi, hanswer⟩ := List.getElem?_eq_some_iff.1 h
    have hlt : i < steps.length := by simpa [dialogue] using hi
    refine ⟨by simp [← hanswer, dialogue, hlt], fun j hj => ⟨steps[j], ?_, ?_⟩⟩
    · exact List.getElem?_eq_getElem _
    · simp [dialogue, Nat.lt_trans hj hlt]
  · exact succeeded_of_getElem? after h
  · exact succeeded_of_getElem? after h

end Block

/-! ### One session -/

theorem exists_block_of_stepAll (t : Transport ω) (steps : List MailStep) (w : ω) :
    ∃ (b : Block steps) (w' : ω),
      t.stepAll steps w = ⟨b.ending, (b.dialogue.map Prod.fst).map .mail, w'⟩ ∧
        t.Replies b.dialogue w w' := by
  induction steps generalizing w with
  | nil => exact ⟨.whole, w, rfl, rfl⟩
  | cons step steps ih =>
    rcases hanswer : t.mail step w with ⟨ending, next⟩
    have hstep := Transport.step_run hanswer
    rw [Transport.stepAll]
    cases ending with
    | returned _ =>
      obtain ⟨b, w', hrun, hreplies⟩ := ih next
      refine ⟨b.behind step, w', ?_, ?_⟩
      · rw [Call.bind_of_returned hstep, hrun, b.ending_behind, b.dialogue_behind]
        rfl
      · rw [b.dialogue_behind]
        exact ⟨next, hanswer, hreplies⟩
    | failed fault =>
      exact ⟨.cut [] step steps fault rfl, next, Call.bind_of_failed hstep _, next, hanswer, rfl⟩
    | hanging =>
      exact ⟨.stuck [] step steps rfl, next, Call.bind_of_hanging hstep _, next, hanswer, rfl⟩

/-- A session that is quit at last, whatever comes of it once its first step succeeded. -/
theorem exists_block_of_ensuring (t : Transport ω) (first : MailStep) (steps : List MailStep)
    (w : ω) :
    ∃ (b : Block (first :: steps)) (w' : ω),
      (t.step first >>= fun _ => Call.ensuring (t.stepAll steps) (.emit (.mail .quit))) w =
          ⟨b.ending, b.events.map .mail, w'⟩ ∧
        t.Replies b.dialogue w w' := by
  rcases hanswer : t.mail first w with ⟨ending, next⟩
  have hstep := Transport.step_run hanswer
  cases ending with
  | returned _ =>
    obtain ⟨b, w', hrun, hreplies⟩ := exists_block_of_stepAll t steps next
    refine ⟨b.behind first, w', ?_, ?_⟩
    · rw [Call.bind_of_returned hstep, b.ending_behind, b.events_behind, Call.ensuring, hrun]
      cases b <;> simp [Block.ending, Block.closing]
    · rw [b.dialogue_behind]
      exact ⟨next, hanswer, hreplies⟩
  | failed fault =>
    exact ⟨.cut [] first steps fault rfl, next, Call.bind_of_failed hstep _, next, hanswer, rfl⟩
  | hanging =>
    exact ⟨.stuck [] first steps rfl, next, Call.bind_of_hanging hstep _, next, hanswer, rfl⟩

/-- The steps of a session after it was connected, if all succeed. -/
def furtherSteps (account : Account) (mail : Mail) : List MailStep :=
  (if account.useTls.truthy then [.secure] else []) ++
    (if account.logsIn then [.login account.user account.password] else []) ++ [.send mail]

/-- The steps of a session before it is quit, if all succeed. -/
def steps (account : Account) (policy : Policy) (mail : Mail) : List MailStep :=
  .connect account.host account.portNumber policy.timeout :: furtherSteps account mail

theorem converse_eq (t : Transport ω) (account : Account) (policy : Policy) (mail : Mail) :
    converse t account policy mail =
      t.step (.connect account.host account.portNumber policy.timeout) >>= fun _ =>
        Call.ensuring (t.stepAll (furtherSteps account mail)) (.emit (.mail .quit)) := by
  unfold converse furtherSteps
  cases account.useTls.truthy <;> cases account.logsIn <;> simp [Transport.stepAll]

/-- **Encryption comes first** in the sessions of an account that encrypts. -/
theorem secured_of_useTls {account : Account} (htls : account.useTls.truthy = true) {policy : Policy}
    {mail : Mail} (b : Block (steps account policy mail)) : b.Secured := by
  intro i step hstep hsecret
  obtain ⟨answer, hanswer, rfl⟩ := Block.exists_answer_of_confidential hstep hsecret
  obtain ⟨hplace, hbefore⟩ := b.succeeded_of_dialogue hanswer
  obtain ⟨rest, hsteps⟩ : ∃ rest, steps account policy mail =
      .connect account.host account.portNumber policy.timeout :: .secure :: rest := by
    simp [steps, furtherSteps, htls]
  have hi : 1 < i := by
    rw [hsteps] at hplace
    rcases i with _ | _ | i
    · rw [← Option.some.inj hplace] at hsecret
      cases hsecret
    · rw [← Option.some.inj hplace] at hsecret
      cases hsecret
    · omega
  obtain ⟨s, hs, hsecured⟩ := hbefore 1 hi
  rw [hsteps] at hs
  obtain rfl : MailStep.secure = s := Option.some.inj hs
  exact ⟨1, hi, Block.events_of_dialogue hsecured, hsecured⟩

/-! ### One transmission -/

namespace Block

variable {t : Transport ω} {steps : List MailStep} {w w' : ω}

/-- The block is what a run says to the server and is answered. -/
structure Records (b : Block steps) (t : Transport ω) (w : ω) (run : Run ω (Ending α)) : Prop where
  events : Effect.mailSteps run.effects = b.events
  replies : t.Replies b.dialogue w run.world
  ending : run.value.outline = b.ending

theorem Records.ne_whole {b : Block steps} {run : Run ω (Ending α)} (h : b.Records t w run)
    (hvalue : ∀ a, run.value ≠ .returned a) : b ≠ .whole := by
  rintro rfl
  have hending : run.value.outline = .returned () := h.ending
  cases hrun : run.value with
  | returned a => exact hvalue a hrun
  | failed fault =>
    rw [hrun] at hending
    cases hending
  | hanging =>
    rw [hrun] at hending
    cases hending

/-- What follows a session and takes no step of it leaves its block as it is. -/
theorem records_bind {b : Block steps} {x : Call ω Unit} {f : Unit → Call ω α}
    (hrun : x w = ⟨b.ending, b.events.map .mail, w'⟩) (hreplies : t.Replies b.dialogue w w')
    (hoffline : (f ()).Offline) (hreturns : (f ()).Returns) : b.Records t w ((x >>= f) w) := by
  cases hending : b.ending with
  | returned _ =>
    rw [hending] at hrun
    obtain ⟨a, ha⟩ := hreturns w'
    rw [Call.bind_of_returned hrun]
    refine ⟨?_, ?_, ?_⟩
    · simp [hoffline.mailSteps]
    · rwa [hoffline.world]
    · rw [ha, hending]
      rfl
  | failed fault =>
    rw [hending] at hrun
    rw [Call.bind_of_failed hrun]
    exact ⟨Effect.mailSteps_mail _, hreplies, hending.symm⟩
  | hanging =>
    rw [hending] at hrun
    rw [Call.bind_of_hanging hrun]
    exact ⟨Effect.mailSteps_mail _, hreplies, hending.symm⟩

end Block

variable {t : Transport ω} {settings : ChannelSettings}

/-- The mail of a message. -/
def mailOf (account : Account) (message : String) (metadata : Metadata) : Except Fault Mail := do
  let l ← letter account message metadata
  let recipients ← Setting.joined account.recipients
  return ⟨l.subject, account.sender, recipients, l.body⟩

theorem exists_records_transmit {c : Carrier ω Letter} (h : carrier t settings = .ok c) {l : Letter}
    {recipients : String}
    (hrecipients : Setting.joined (Account.ofSettings settings).recipients = .ok recipients)
    (metadata : Metadata) (w : ω) :
    ∃ b : Block (steps (Account.ofSettings settings) c.policy
        ⟨l.subject, (Account.ofSettings settings).sender, recipients, l.body⟩),
      b.Records t w (c.transmit l metadata w) := by
  obtain ⟨policy, -, hc⟩ := exists_of_bind_eq_ok h
  obtain rfl := Except.ok.inj hc
  dsimp only
  rw [hrecipients, Call.ofExcept_ok_bind, converse_eq]
  obtain ⟨b, w', hrun, hreplies⟩ := exists_block_of_ensuring t _ _ w
  refine ⟨b, Block.records_bind hrun hreplies ?_ ?_⟩
  · exact Call.Offline.bind ⟨fun _ => rfl, fun _ => rfl⟩ fun _ => Call.offline_pure _
  · exact (Call.returns_ofSession _).bind fun _ => Call.returns_pure _

/-! ### One call -/

/-- A call says its blocks to the server, one after the other, of which only the last one can be
whole; then the call succeeds. -/
structure Unfolds {steps : List MailStep} (t : Transport ω) (w : ω) (run : Run ω (Ending Receipt))
    (blocks : List (Block steps)) : Prop where
  events : Effect.mailSteps run.effects = blocks.flatMap Block.events
  replies : t.Replies (blocks.flatMap Block.dialogue) w run.world
  retried : .whole ∉ blocks.dropLast
  succeeds :
    (∃ receipt, run.value = .returned receipt ∧ receipt.success = true) ↔
      blocks.getLast? = some .whole

namespace Unfolds

variable {steps : List MailStep} {w : ω} {blocks : List (Block steps)}

/-- Nothing is said to the server, and nothing succeeds. -/
theorem nil {run : Run ω (Ending Receipt)} (hworld : run.world = w)
    (hsteps : Effect.mailSteps run.effects = [])
    (hvalue : ∀ receipt, run.value = .returned receipt → receipt.success = false) :
    Unfolds t w run ([] : List (Block steps)) := by
  refine ⟨hsteps, hworld.symm, List.not_mem_nil, ?_⟩
  constructor
  · rintro ⟨receipt, hreceipt, hsuccess⟩
    rw [hvalue receipt hreceipt] at hsuccess
    cases hsuccess
  · intro hlast
    cases hlast

theorem behind {run : Run ω (Ending Receipt)} (h : Unfolds t w run blocks) {effects : List Effect}
    (heffects : Effect.mailSteps effects = []) : Unfolds t w (run.behind effects) blocks := by
  refine ⟨?_, h.replies, h.retried, h.succeeds⟩
  exact (Effect.mailSteps_append _ _).trans (by rw [heffects, List.nil_append, h.events])

/-- An attempt that does not succeed, and what follows it. -/
theorem cons {b : Block steps} {attempt : Run ω (Ending α)} {run : Run ω (Ending Receipt)}
    (hb : b.Records t w attempt) (hcut : b ≠ .whole) (h : Unfolds t attempt.world run blocks) :
    Unfolds t w (run.behind attempt.effects) (b :: blocks) := by
  refine ⟨?_, hb.replies.append h.replies, ?_, h.succeeds.trans ?_⟩
  · rw [List.flatMap_cons, ← hb.events, ← h.events]
    exact Effect.mailSteps_append _ _
  · cases blocks with
    | nil => exact List.not_mem_nil
    | cons next blocks =>
      rw [List.dropLast_cons_cons, List.mem_cons, not_or]
      exact ⟨hcut.symm, h.retried⟩
  · cases blocks with
    | nil => simpa using hcut
    | cons next blocks => rw [List.getLast?_cons_cons]

/-- An attempt that does not succeed and is the last one, because its fault is not recovered from or
because it never came back. -/
theorem stop {b : Block steps} {attempt : Run ω (Ending α)} (hb : b.Records t w attempt)
    (hcut : b ≠ .whole) {ending : Ending Receipt} (hending : ∀ receipt, ending ≠ .returned receipt) :
    Unfolds t w ⟨ending, attempt.effects, attempt.world⟩ [b] := by
  have hnil : Unfolds t attempt.world ⟨ending, [], attempt.world⟩ ([] : List (Block steps)) :=
    .nil rfl rfl fun receipt hreceipt => absurd hreceipt (hending receipt)
  have h := cons hb hcut hnil
  rwa [Run.behind_mk, List.append_nil] at h

/-- An attempt that succeeds, and with it the call. -/
theorem whole {attempt : Run ω (Ending α)} {run : Run ω (Ending Receipt)}
    (hb : (Block.whole : Block steps).Records t w attempt) (hworld : run.world = attempt.world)
    (hsteps : Effect.mailSteps run.effects = []) {receipt : Receipt}
    (hvalue : run.value = .returned receipt) (hsuccess : receipt.success = true) :
    Unfolds t w (run.behind attempt.effects) [(.whole : Block steps)] := by
  refine ⟨?_, ?_, List.not_mem_nil, iff_of_true ⟨receipt, hvalue, hsuccess⟩ rfl⟩
  · rw [List.flatMap_cons, ← hb.events]
    refine (Effect.mailSteps_append _ _).trans ?_
    rw [hsteps, List.flatMap_nil]
  · rw [List.flatMap_cons, List.flatMap_nil, List.append_nil]
    exact hworld ▸ hb.replies

end Unfolds

/-- The receipt of a call counts the attempts before the last one: `tried` attempts that are told
elsewhere, and these blocks. -/
def Counted {steps : List MailStep} (tried : Nat) (blocks : List (Block steps))
    (run : Run ω (Ending Receipt)) : Prop :=
  ∀ receipt, run.value = .returned receipt → receipt.retryCount + 1 = tried + blocks.length

/-- Attempts are made behind something that says nothing to the server, or they are not made. -/
theorem exists_unfolds_bind {steps : List MailStep} {x : Call ω Unit} (hoffline : x.Offline)
    (hanswers : x.Answers) {attempts : Call ω Receipt} {tried : Nat} {p : Prop} {w : ω}
    (h : ∃ blocks : List (Block steps), Unfolds t w (attempts w) blocks ∧
      (p → Counted tried blocks (attempts w))) :
    ∃ blocks : List (Block steps), Unfolds t w ((x >>= fun _ => attempts) w) blocks ∧
      (p → Counted tried blocks ((x >>= fun _ => attempts) w)) := by
  have hrun : x w = ⟨(x w).value, (x w).effects, w⟩ := congrArg (Run.mk _ _) (hoffline.world w)
  cases hvalue : (x w).value with
  | returned _ =>
    rw [hvalue] at hrun
    obtain ⟨blocks, hblocks, hcounted⟩ := h
    rw [Call.bind_of_returned hrun]
    exact ⟨blocks, hblocks.behind (hoffline.mailSteps w), hcounted⟩
  | failed fault =>
    rw [hvalue] at hrun
    rw [Call.bind_of_failed hrun]
    exact ⟨[], .nil rfl (hoffline.mailSteps w) (by simp), by simp [Counted]⟩
  | hanging => exact absurd hvalue (hanswers w)

/-- The attempts that are left, after `tried` others, unfold into blocks that the receipt counts. -/
def Unfolding {π : Type} (t : Transport ω) (steps : List MailStep) (c : Carrier ω π) (payload : π)
    (metadata : Metadata) (left tried : Nat) : Prop :=
  ∀ (last : Option Fault) (w : ω), ∃ blocks : List (Block steps),
    Unfolds t w (c.attemptFrom payload metadata left tried last w) blocks ∧
      (blocks = [] ↔ left = 0) ∧
      ((tried : Int) + left = c.policy.maxRetries + 1 →
        Counted tried blocks (c.attemptFrom payload metadata left tried last w))

section

variable {π : Type} {c : Carrier ω π} {payload : π} {metadata : Metadata} {steps : List MailStep}

theorem unfolding_zero (tried : Nat) : Unfolding t steps c payload metadata 0 tried := by
  intro last w
  have hoffline := c.giveUp_offline metadata last
  refine ⟨[], .nil (hoffline.world w) (hoffline.mailSteps w) ?_, by simp, ?_⟩
  · intro receipt hreceipt
    obtain rfl := Ending.returned.inj hreceipt
    rfl
  · intro hall receipt hreceipt
    obtain rfl := Ending.returned.inj hreceipt
    simp only [Carrier.undelivered, List.length_nil]
    omega

/-- One more attempt is one more block: the only one, unless its fault is recovered from. -/
theorem unfolding_succ
    (htransmit : ∀ w, ∃ b : Block steps, b.Records t w (c.transmit payload metadata w))
    {left tried : Nat} (h : Unfolding t steps c payload metadata left (tried + 1)) :
    Unfolding t steps c payload metadata (left + 1) tried := by
  intro last w
  obtain ⟨b, hb⟩ := htransmit w
  cases hvalue : (c.transmit payload metadata w).value with
  | returned response =>
    have hending := hb.ending
    rw [hvalue] at hending
    obtain rfl := Block.eq_whole_of_ending hending.symm
    have hoffline := c.finish_offline metadata tried response
    have hfinish := c.finish_value metadata tried response (c.transmit payload metadata w).world
    rw [Carrier.attemptFrom_of_returned hvalue]
    refine ⟨[.whole], .whole hb (hoffline.world _) (hoffline.mailSteps _) hfinish rfl, by simp, ?_⟩
    intro hall receipt hreceipt
    obtain rfl := Ending.returned.inj (hfinish.symm.trans hreceipt)
    simp [Carrier.delivered]
  | failed fault =>
    have hcut : b ≠ .whole := hb.ne_whole (by simp [hvalue])
    by_cases hrecovers : c.recovers fault = true
    · rw [Carrier.attemptFrom_of_recovered hvalue hrecovers]
      obtain ⟨blocks, hblocks, -, hcounted⟩ := h (some fault) (c.transmit payload metadata w).world
      obtain ⟨blocks, hrest, hcounted⟩ := exists_unfolds_bind (c.recover_offline left tried fault)
        (Carrier.recover_answers left tried fault) ⟨blocks, hblocks, hcounted⟩
      refine ⟨b :: blocks, .cons hb hcut hrest, by simp, ?_⟩
      intro hall receipt hreceipt
      rw [hcounted (by push_cast; omega) receipt hreceipt, List.length_cons]
      push_cast
      omega
    · rw [Carrier.attemptFrom_of_foreign hvalue hrecovers]
      exact ⟨[b], .stop hb hcut (by simp), by simp, by simp [Counted]⟩
  | hanging =>
    have hcut : b ≠ .whole := hb.ne_whole (by simp [hvalue])
    rw [Carrier.attemptFrom_of_hanging hvalue]
    exact ⟨[b], .stop hb hcut (by simp), by simp, by simp [Counted]⟩

/-- Attempts unfold into blocks, if every transmission is one block. -/
theorem unfolding_of_records
    (htransmit : ∀ w, ∃ b : Block steps, b.Records t w (c.transmit payload metadata w))
    (left tried : Nat) : Unfolding t steps c payload metadata left tried := by
  induction left generalizing tried with
  | zero => exact unfolding_zero tried
  | succ left ih => exact unfolding_succ htransmit (ih (tried + 1))

end

/-! ### Channels -/

theorem not_prepared_of_mailOf {message : String} {metadata : Metadata} {fault : Fault}
    (h : mailOf (Account.ofSettings settings) message metadata = .error fault) :
    ¬Prepared settings metadata .email := by
  rintro ⟨⟨subject, hsubject⟩, recipients, hrecipients⟩
  obtain ⟨l, hl⟩ := letter_of_opening hsubject message
  rw [mailOf, hl, hrecipients] at h
  cases h

/-- A message with a mail is sent in blocks. -/
theorem send_of_mailOf_ok {c : Carrier ω Letter} (h : carrier t settings = .ok c)
    (hready : c.readiness = .ready) (hdry : c.policy.dryRun.truthy = false) {message : String}
    {metadata : Metadata} {mail : Mail}
    (hmail : mailOf (Account.ofSettings settings) message metadata = .ok mail) (w : ω) :
    ∃ blocks : List (Block (steps (Account.ofSettings settings) c.policy mail)),
      Unfolds t w (c.send message metadata w) blocks ∧ (blocks = [] ↔ c.policy.attempts = 0) ∧
        (0 ≤ c.policy.maxRetries → Counted 0 blocks (c.send message metadata w)) := by
  obtain ⟨l, hletter, hrest⟩ := exists_of_bind_eq_ok hmail
  obtain ⟨recipients, hrecipients, hpure⟩ := exists_of_bind_eq_ok hrest
  obtain rfl := Except.ok.inj hpure
  have hcompose : c.compose message metadata = .ok l := by
    obtain ⟨policy, -, hc⟩ := exists_of_bind_eq_ok h
    obtain rfl := Except.ok.inj hc
    exact hletter
  rw [Carrier.send_of_ready hready hdry, hcompose, Call.ofExcept_ok_bind]
  obtain ⟨blocks, hblocks, hempty, hcounted⟩ :=
    unfolding_of_records (exists_records_transmit h hrecipients metadata) c.policy.attempts 0 none w
  refine ⟨blocks, hblocks, hempty, fun hretries => hcounted ?_⟩
  simp only [Policy.attempts]
  omega

/-- A mail server in a world that is a list of the answers to come. -/
def scriptedServer : Transport (List (Ending Unit)) where
  http _ script := (.hanging, script)
  mail _
    | [] => (.hanging, [])
    | answer :: script => (answer, script)

/-- The retries that a receipt of success tells. -/
def retries? : Ending Receipt → Option Int
  | .returned receipt => if receipt.success then some receipt.retryCount else none
  | _ => none

theorem exists_receipt_of_retries {ending : Ending Receipt} {n : Int} (h : retries? ending = some n) :
    ∃ receipt, ending = .returned receipt ∧ receipt.success = true ∧ receipt.retryCount = n := by
  cases ending with
  | returned receipt =>
    rw [retries?, Option.ite_none_right_eq_some] at h
    exact ⟨receipt, rfl, h.1, Option.some.inj h.2⟩
  | failed fault => cases h
  | hanging => cases h

end Email

end RowAlert
