import RowAlert.Proofs.Attempts
/-!
# RowAlert.Proofs.Retries

**What a carrier does between its first transmission and its receipt.**

The outcomes of the transmissions decide everything, and they are those of the world that the
transmissions before them left behind (`Carrier.transmission`). A transmission that fails, with
another attempt left, adds itself and a pause (`attemptFrom_of_fails`); the first one that does not
fail so ends the call (`attemptFrom_of_concludes`). What a whole call does follows by induction on the
failures (`send_retries`).
-/

namespace RowAlert

variable {ω α β : Type}

/-- A run without what it reports to the operator. -/
def Run.outside (r : Run ω α) : Run ω α := { r with effects := Effect.outside r.effects }

theorem Run.exists_of_outside {r : Run ω α} {a : α} {effects : List Effect} {w : ω}
    (h : r.outside = ⟨a, effects, w⟩) : ∃ all, r = ⟨a, all, w⟩ ∧ Effect.outside all = effects := by
  obtain ⟨b, all, w'⟩ := r
  obtain ⟨rfl, heffects, rfl⟩ := Run.mk.inj h
  exact ⟨all, rfl, heffects⟩

/-- The run with some effects before it. -/
def Run.behind (effects : List Effect) (r : Run ω α) : Run ω α :=
  { r with effects := effects ++ r.effects }

@[simp] theorem Run.behind_nil (r : Run ω α) : r.behind [] = r := rfl

@[simp] theorem Run.behind_mk (es fs : List Effect) (a : α) (w : ω) :
    Run.behind es ⟨a, fs, w⟩ = ⟨a, es ++ fs, w⟩ := rfl

theorem Run.behind_append (es fs : List Effect) (r : Run ω α) :
    r.behind (es ++ fs) = (r.behind fs).behind es := by
  simp only [behind, List.append_assoc]

/-- How a call ends whose faults are caught if a test selects them. -/
def Ending.caught (selects : Fault → Bool) : Ending α → Ending (Except Fault α)
  | returned a => returned (.ok a)
  | failed fault => if selects fault then returned (.error fault) else failed fault
  | hanging => hanging

namespace Call

variable {x : Call ω α} {w w' : ω} {effects : List Effect}

theorem outside_bind_of_returned {a : α} (h : (x w).outside = ⟨.returned a, effects, w'⟩)
    (f : α → Call ω β) : ((x >>= f) w).outside = (f a w').outside.behind effects := by
  obtain ⟨all, hrun, rfl⟩ := Run.exists_of_outside h
  rw [bind_of_returned hrun, Run.outside, Effect.outside_append]
  rfl

theorem outside_bind_of_failed {fault : Fault} (h : (x w).outside = ⟨.failed fault, effects, w'⟩)
    (f : α → Call ω β) : ((x >>= f) w).outside = ⟨.failed fault, effects, w'⟩ := by
  obtain ⟨all, hrun, rfl⟩ := Run.exists_of_outside h
  rw [bind_of_failed hrun]
  rfl

theorem outside_bind_of_hanging (h : (x w).outside = ⟨.hanging, effects, w'⟩)
    (f : α → Call ω β) : ((x >>= f) w).outside = ⟨.hanging, effects, w'⟩ := by
  obtain ⟨all, hrun, rfl⟩ := Run.exists_of_outside h
  rw [bind_of_hanging hrun]
  rfl

/-- A call that was caught does what it would do without. -/
theorem catching_run (selects : Fault → Bool) (x : Call ω α) (w : ω) :
    catching selects x w = ⟨(x w).value.caught selects, (x w).effects, (x w).world⟩ := by
  rcases hrun : x w with ⟨ending, es, world⟩
  simp only [catching, hrun]
  cases ending with
  | returned a => rfl
  | failed fault =>
    simp only [Ending.caught]
    split <;> rfl
  | hanging => rfl

end Call

namespace Carrier

variable {π : Type} (c : Carrier ω π)

/-- What a carrier says does not reach the world outside. -/
theorem outside_say_bind (severity : Severity) (text : String) (f : Unit → Call ω α) (w : ω) :
    ((c.say severity text >>= f) w).outside = (f () w).outside := by
  have hsay : (c.say severity text w).outside = ⟨.returned (), [], w⟩ := rfl
  rw [Call.outside_bind_of_returned hsay, Run.behind_nil]

theorem outside_finish (metadata : Metadata) (tried : Nat) (response : Json) (w : ω) :
    (c.finish metadata tried response w).outside =
      ⟨.returned (c.delivered metadata tried response), [], w⟩ := by
  unfold finish
  split
  · rw [outside_say_bind]
    rfl
  · rfl

theorem outside_giveUp (metadata : Metadata) (fault : Fault) (w : ω) :
    (c.giveUp metadata (some fault) w).outside =
      ⟨.returned (c.undelivered metadata s!"{c.name}: {fault.reason}" c.policy.maxRetries), [], w⟩ := by
  rw [giveUp, outside_say_bind]
  rfl

/-! ### Pauses -/

/-- The pause after a failed attempt that came after `tried` others: the delay listed for it, or the
last one if there are not so many. -/
def pauseAfter : List Json → Nat → List Effect
  | [], _ => []
  | first :: further, tried =>
    have hlisted : min tried further.length < (first :: further).length :=
      Nat.lt_succ_of_le (Nat.min_le_right tried further.length)
    [.pause ((first :: further).get ⟨min tried further.length, hlisted⟩)]

variable {c} {delays : List Json}

/-- The delay that is looked up is the listed one. -/
theorem wait_eq (hdelays : c.policy.retryDelays = .arr delays) (tried : Nat) (w : ω) :
    c.wait tried w = ⟨.returned (), pauseAfter delays tried, w⟩ := by
  cases delays with
  | nil =>
    have hdelay : c.policy.delayAfter tried = .ok none := by
      simp [Policy.delayAfter, hdelays, Json.truthy]
    rw [wait, hdelay]
    rfl
  | cons first further =>
    have hlisted : min tried further.length < (first :: further).length :=
      Nat.lt_succ_of_le (Nat.min_le_right tried further.length)
    have hdelay : c.policy.delayAfter tried =
        .ok (some ((first :: further).get ⟨min tried further.length, hlisted⟩)) := by
      simp [Policy.delayAfter, hdelays, Json.truthy, Policy.lastUpTo]
    rw [wait, hdelay]
    rfl

/-! ### Transmissions in turn -/

section

variable (c) (payload : π) (metadata : Metadata) (w : ω)

/-- The world after some transmissions. -/
def worldAfter : Nat → ω
  | 0 => w
  | n + 1 => (c.transmit payload metadata (worldAfter n)).world

/-- The transmission that comes after `n` others. -/
def transmission (n : Nat) : Run ω (Ending Json) :=
  c.transmit payload metadata (c.worldAfter payload metadata w n)

/-- The transmission after `n` others ends with a fault after which there may be another attempt. -/
def Fails (n : Nat) : Prop :=
  ∃ fault, (c.transmission payload metadata w n).value = .failed fault ∧ c.recovers fault = true

/-- What a failed attempt adds to the effects of a call: its transmission, and a pause. -/
def failedAttempt (delays : List Json) (n : Nat) : List Effect :=
  Effect.outside (c.transmission payload metadata w n).effects ++ pauseAfter delays n

/-- The effects of a call whose last transmission comes after `n` failed ones. -/
def transcript (delays : List Json) (n : Nat) : List Effect :=
  (List.range n).flatMap (c.failedAttempt payload metadata w delays) ++
    Effect.outside (c.transmission payload metadata w n).effects

/-- The run of a call whose last transmission comes after `n` failed ones, as it ends. -/
def runThrough (delays : List Json) (n : Nat) (ending : Ending Receipt) : Run ω (Ending Receipt) :=
  ⟨ending, c.transcript payload metadata w delays n, c.worldAfter payload metadata w (n + 1)⟩

end

/-! ### Attempts in turn -/

theorem outside_pauseAfter (delays : List Json) (tried : Nat) :
    Effect.outside (pauseAfter delays tried) = pauseAfter delays tried := by
  cases delays <;> rfl

theorem outside_recover (hdelays : c.policy.retryDelays = .arr delays) (left tried : Nat)
    (fault : Fault) (w : ω) :
    (c.recover left tried fault w).outside =
      ⟨.returned (), if left > 0 then pauseAfter delays tried else [], w⟩ := by
  unfold recover
  rw [outside_say_bind]
  split
  · rw [wait_eq hdelays, Run.outside, outside_pauseAfter]
  · rfl

section

variable {payload : π} {metadata : Metadata} {w : ω} {n : Nat}

theorem outside_catching_transmission (c : Carrier ω π) (payload : π) (metadata : Metadata) (w : ω)
    (n : Nat) :
    (Call.catching c.recovers (c.transmit payload metadata)
        (c.worldAfter payload metadata w n)).outside =
      ⟨(c.transmission payload metadata w n).value.caught c.recovers,
        Effect.outside (c.transmission payload metadata w n).effects,
        c.worldAfter payload metadata w (n + 1)⟩ := by
  rw [Call.catching_run]
  rfl

/-- A failed attempt that is not the last one is followed by a pause and the next attempt. -/
theorem attemptFrom_of_fails (hdelays : c.policy.retryDelays = .arr delays)
    (h : c.Fails payload metadata w n) (left : Nat) (last : Option Fault) :
    ∃ fault, (c.attemptFrom payload metadata (left + 2) n last
        (c.worldAfter payload metadata w n)).outside =
      (c.attemptFrom payload metadata (left + 1) (n + 1) (some fault)
        (c.worldAfter payload metadata w (n + 1))).outside.behind
          (c.failedAttempt payload metadata w delays n) := by
  obtain ⟨fault, hvalue, hrecovers⟩ := h
  refine ⟨fault, ?_⟩
  have hcaught := c.outside_catching_transmission payload metadata w n
  rw [hvalue, Ending.caught, if_pos hrecovers] at hcaught
  rw [attemptFrom_succ, Call.outside_bind_of_returned hcaught, proceed,
    Call.outside_bind_of_returned (outside_recover hdelays (left + 1) n fault _), failedAttempt,
    Run.behind_append]
  rfl

/-- What the last transmission of a call makes of it: its outcome, or the end of all attempts. -/
inductive Concludes (c : Carrier ω π) (metadata : Metadata) (tried left : Nat) :
    Ending Json → Ending Receipt → Prop
  | delivered (response : Json) :
      Concludes c metadata tried left (.returned response)
        (.returned (c.delivered metadata tried response))
  | foreign {fault : Fault} (h : c.recovers fault = false) :
      Concludes c metadata tried left (.failed fault) (.failed fault)
  | hanging : Concludes c metadata tried left .hanging .hanging
  | exhausted {fault : Fault} (h : c.recovers fault = true) (hlast : left = 0) :
      Concludes c metadata tried left (.failed fault)
        (.returned (c.undelivered metadata s!"{c.name}: {fault.reason}" c.policy.maxRetries))

theorem attemptFrom_of_concludes (hdelays : c.policy.retryDelays = .arr delays) {left : Nat}
    {ending : Ending Receipt}
    (h : c.Concludes metadata n left (c.transmission payload metadata w n).value ending)
    (last : Option Fault) :
    (c.attemptFrom payload metadata (left + 1) n last (c.worldAfter payload metadata w n)).outside =
      ⟨ending, Effect.outside (c.transmission payload metadata w n).effects,
        c.worldAfter payload metadata w (n + 1)⟩ := by
  have hcaught := c.outside_catching_transmission payload metadata w n
  rw [attemptFrom_succ]
  generalize (c.transmission payload metadata w n).value = outcome at h hcaught
  cases h with
  | delivered response =>
    rw [Call.outside_bind_of_returned hcaught, proceed, outside_finish, Run.behind_mk,
      List.append_nil]
  | foreign hrecovers =>
    rw [Ending.caught, hrecovers] at hcaught
    exact Call.outside_bind_of_failed hcaught _
  | hanging => exact Call.outside_bind_of_hanging hcaught _
  | exhausted hrecovers hlast =>
    -- There is no pause after the last attempt.
    subst hlast
    rw [Ending.caught, if_pos hrecovers] at hcaught
    have hstop (fault : Fault) (w' : ω) :
        (c.recover 0 n fault w').outside = ⟨.returned (), [], w'⟩ :=
      outside_recover hdelays 0 n fault w'
    rw [Call.outside_bind_of_returned hcaught, proceed,
      Call.outside_bind_of_returned (hstop _ _), attemptFrom, outside_giveUp, Run.behind_nil,
      Run.behind_mk, List.append_nil]

/-- Attempts that fail are made one after the other, with their pauses. -/
theorem attemptFrom_of_failures (hdelays : c.policy.retryDelays = .arr delays) {left tried k : Nat}
    (hn : tried + k = n) (hfails : ∀ i, tried ≤ i → i < n → c.Fails payload metadata w i)
    {r : Run ω (Ending Receipt)}
    (hlast : ∀ last, (c.attemptFrom payload metadata (left + 1) n last
      (c.worldAfter payload metadata w n)).outside = r) (last : Option Fault) :
    (c.attemptFrom payload metadata (left + k + 1) tried last
        (c.worldAfter payload metadata w tried)).outside =
      r.behind ((List.range' tried k).flatMap (c.failedAttempt payload metadata w delays)) := by
  induction k generalizing tried last with
  | zero =>
    obtain rfl : tried = n := hn
    exact hlast last
  | succ k ih =>
    obtain ⟨fault, hnext⟩ :=
      attemptFrom_of_fails hdelays (hfails tried (Nat.le_refl tried) (by omega)) (left + k) last
    have hn' : tried + 1 + k = n := by omega
    have hlater := ih hn' (fun i hle hlt => hfails i (Nat.le_of_succ_le hle) hlt) (some fault)
    rw [List.range'_succ, List.flatMap_cons, Run.behind_append, ← hlater]
    exact hnext

/-- A call whose first transmissions fail and whose last one concludes it. -/
theorem send_of_concludes {message : String} (hready : c.readiness = .ready)
    (hdry : c.policy.dryRun.truthy = false) (hdelays : c.policy.retryDelays = .arr delays) {m : Nat}
    (hretries : c.policy.maxRetries = m) (hcompose : c.compose message metadata = .ok payload)
    (hn : n ≤ m) (hfails : ∀ i < n, c.Fails payload metadata w i) {ending : Ending Receipt}
    (h : c.Concludes metadata n (m - n) (c.transmission payload metadata w n).value ending) :
    (c.send message metadata w).outside = c.runThrough payload metadata w delays n ending := by
  have hattempts : c.policy.attempts = m - n + n + 1 := by
    rw [Policy.attempts, hretries]
    omega
  rw [send_of_ready hready hdry, hcompose, Call.ofExcept_ok_bind, hattempts]
  refine (attemptFrom_of_failures hdelays (Nat.zero_add n) (fun i _ hi => hfails i hi)
    (attemptFrom_of_concludes hdelays h) none).trans ?_
  rw [Run.behind_mk, ← List.range_eq_range']
  rfl

end

/-- A carrier in a world that is a list of the outcomes to come. -/
def scriptedCarrier : Carrier (List (Ending Json)) String where
  name := "ops"
  label := "OpsChannel"
  policy := ⟨.bool true, .bool false, 2, .arr [.int 5], .zero⟩
  readiness := .ready
  recovers := Fault.isDelivery
  compose message _ := .ok message
  transmit payload metadata := Call.perform (.handed "ops" payload metadata) fun
    | [] => (.hanging, [])
    | outcome :: script => (outcome, script)

end Carrier

end RowAlert
