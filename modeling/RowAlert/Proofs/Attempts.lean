import RowAlert.Channel.Carrier
import RowAlert.Proofs.Calls
/-!
# RowAlert.Proofs.Attempts

**How often a carrier tries, and what its receipt says about it.**

A carrier transmits once for each attempt (`attemptFrom_succ`), so its receipt counts the attempts that
came before the last one (`attemptFrom_counts`). There is at least one attempt if the policy has one
and the message can be prepared (`send_counted`), and none otherwise (`send_idle`). A carrier whose
transmissions are answered answers every message (`send_answers`).
-/

namespace RowAlert

namespace Call

variable {ω α : Type}

/-- The receipt counts the attempts that came before the last one, `tried` of them before the call. -/
def Counts (x : Call ω Receipt) (tried : Nat) : Prop :=
  ∀ w r, (x w).value = .returned r → r.retryCount + 1 = tried + Effect.attempts (x w).effects

/-- Attempts in the first part are counted as tried behind it. -/
theorem Attempts.counts_bind {x : Call ω α} {f : α → Call ω Receipt} {tried n : Nat} (hx : x.Attempts n)
    (hf : ∀ a, (f a).Counts (tried + n)) : (x >>= f).Counts tried := by
  intro w r hr
  rcases hrun : x w with ⟨ending, effects, w'⟩
  have hfirst := hx.of_run hrun
  cases ending with
  | returned a =>
    rw [bind_of_returned hrun] at hr ⊢
    have hrest := hf a w' r hr
    rw [Effect.attempts_append, hfirst]
    omega
  | failed fault =>
    rw [bind_of_failed hrun] at hr
    cases hr
  | hanging =>
    rw [bind_of_hanging hrun] at hr
    cases hr

/-- What follows does not undo attempts. -/
theorem Attempts.le_bind {β : Type} {x : Call ω α} {n : Nat} (hx : x.Attempts n) (f : α → Call ω β)
    (w : ω) : n ≤ Effect.attempts ((x >>= f) w).effects := by
  rcases hrun : x w with ⟨ending, effects, w'⟩
  have hfirst := hx.of_run hrun
  cases ending with
  | returned a =>
    rw [bind_of_returned hrun, Effect.attempts_append, hfirst]
    exact Nat.le_add_right n _
  | failed fault =>
    rw [bind_of_failed hrun]
    exact Nat.le_of_eq hfirst.symm
  | hanging =>
    rw [bind_of_hanging hrun]
    exact Nat.le_of_eq hfirst.symm

end Call

/-! ### Carriers -/

namespace Carrier

variable {ω π : Type} (c : Carrier ω π)

/-- The end of a carrier's attempts, the last one having succeeded. -/
def finish (metadata : Metadata) (tried : Nat) (response : Json) : Call ω Receipt := do
  if tried > 0 then c.say .info s!"Retry succeeded on attempt {tried + 1}"
  return c.delivered metadata tried response

/-- What a carrier does between an attempt and the next one. -/
def recover (left tried : Nat) (fault : Fault) : Call ω Unit := do
  let all := c.policy.maxRetries + 1
  c.say .warning s!"Send failed on attempt {tried + 1}/{all}: {fault.message}"
  if left > 0 then c.wait tried

/-- What follows an attempt. -/
def proceed (payload : π) (metadata : Metadata) (left tried : Nat) :
    Except Fault Json → Call ω Receipt
  | .ok response => c.finish metadata tried response
  | .error fault => do
    c.recover left tried fault
    c.attemptFrom payload metadata left (tried + 1) (some fault)

theorem attemptFrom_succ (payload : π) (metadata : Metadata) (left tried : Nat)
    (last : Option Fault) :
    c.attemptFrom payload metadata (left + 1) tried last
      = Call.catching c.recovers (c.transmit payload metadata) >>=
          c.proceed payload metadata left tried := by
  rw [attemptFrom]
  congr 1
  funext r
  cases r with
  | ok response => rfl
  | error fault =>
    simp only [proceed, recover, bind_assoc]
    split <;> simp

theorem say_attempts (severity : Severity) (text : String) : (c.say severity text).Attempts 0 :=
  Call.attempts_ofSession (.notify _)

theorem finish_attempts (metadata : Metadata) (tried : Nat) (response : Json) :
    (c.finish metadata tried response).Attempts 0 := by
  unfold finish
  split
  · exact (c.say_attempts _ _).bind fun _ => Call.attempts_pure _
  · exact Call.attempts_pure _

theorem finish_value (metadata : Metadata) (tried : Nat) (response : Json) (w : ω) :
    (c.finish metadata tried response w).value
      = .returned (c.delivered metadata tried response) := by
  by_cases htried : tried > 0
  · simp only [finish, htried, if_true]
    rfl
  · simp only [finish, htried, if_false]
    rfl

theorem wait_attempts (tried : Nat) : (c.wait tried).Attempts 0 := by
  refine (Call.attempts_ofExcept _).bind fun delay => ?_
  cases delay with
  | none => exact Call.attempts_pure ()
  | some seconds => exact fun _ => rfl

theorem recover_attempts (left tried : Nat) (fault : Fault) :
    (c.recover left tried fault).Attempts 0 := by
  unfold recover
  refine (c.say_attempts _ _).bind fun _ => ?_
  split
  · exact c.wait_attempts tried
  · exact Call.attempts_pure ()

/-- The receipts of a carrier count its attempts, as long as those that are left and those that were
made are all attempts of the policy. -/
theorem attemptFrom_counts {payload : π} {metadata : Metadata}
    (htransmit : (c.transmit payload metadata).Attempts 1) (left tried : Nat) (last : Option Fault)
    (hall : (tried : Int) + left = c.policy.maxRetries + 1) :
    (c.attemptFrom payload metadata left tried last).Counts tried := by
  induction left generalizing tried last with
  | zero =>
    intro w r hr
    have hattempts : (c.attemptFrom payload metadata 0 tried last).Attempts 0 :=
      (c.say_attempts _ _).bind fun _ => Call.attempts_pure _
    obtain rfl : c.undelivered metadata _ c.policy.maxRetries = r := Ending.returned.inj hr
    rw [hattempts w]
    simp only [undelivered]
    omega
  | succ left ih =>
    rw [attemptFrom_succ]
    refine (htransmit.catching c.recovers).counts_bind fun answer => ?_
    cases answer with
    | ok response =>
      intro w r hr
      rw [proceed, finish_value] at hr
      obtain rfl : c.delivered metadata tried response = r := Ending.returned.inj hr
      rw [proceed, c.finish_attempts metadata tried response w]
      simp only [delivered]
      omega
    | error fault =>
      refine (c.recover_attempts left tried fault).counts_bind fun _ => ih (tried + 1) _ ?_
      omega

/-- A carrier that has an attempt makes it. -/
theorem attemptFrom_attempts_pos {payload : π} {metadata : Metadata}
    (htransmit : (c.transmit payload metadata).Attempts 1) (left tried : Nat) (last : Option Fault)
    (w : ω) :
    0 < Effect.attempts (c.attemptFrom payload metadata (left + 1) tried last w).effects := by
  rw [attemptFrom_succ]
  exact (htransmit.catching c.recovers).le_bind _ w

/-- A fault that ends the first transmission before it begins, and is not recovered from, is all that
comes of the attempts. -/
theorem attemptFrom_of_fault {payload : π} {metadata : Metadata} {fault : Fault}
    (htransmit : c.transmit payload metadata = Call.ofExcept (.error fault))
    (hrecovers : c.recovers fault = false) (left tried : Nat) (last : Option Fault) :
    c.attemptFrom payload metadata (left + 1) tried last = Call.ofExcept (.error fault) := by
  have hcatching : Call.catching c.recovers (Call.ofExcept (.error fault) : Call ω Json)
      = Call.ofExcept (.error fault) := by
    funext w
    simp [Call.catching, Call.ofExcept, Ending.ofExcept, hrecovers]
  rw [attemptFrom_succ, htransmit, hcatching, Call.ofExcept_error_bind]

/-! ### Answers -/

section

variable {c}

theorem say_answers (severity : Severity) (text : String) : (c.say severity text).Answers :=
  Call.answers_ofSession _

theorem giveUp_answers (metadata : Metadata) (last : Option Fault) :
    (c.giveUp metadata last).Answers :=
  (say_answers _ _).bind fun _ => Call.answers_pure _

theorem recover_answers (left tried : Nat) (fault : Fault) : (c.recover left tried fault).Answers := by
  unfold recover
  refine (say_answers _ _).bind fun _ => ?_
  split
  · refine (Call.answers_ofExcept _).bind fun delay => ?_
    cases delay with
    | none => exact Call.answers_pure ()
    | some seconds => exact Call.answers_ofSession _
  · exact Call.answers_pure ()

theorem attemptFrom_answers {payload : π} {metadata : Metadata}
    (htransmit : (c.transmit payload metadata).Answers) (left tried : Nat) (last : Option Fault) :
    (c.attemptFrom payload metadata left tried last).Answers := by
  induction left generalizing tried last with
  | zero => exact giveUp_answers metadata last
  | succ left ih =>
    rw [attemptFrom_succ]
    refine (htransmit.catching c.recovers).bind fun answer => ?_
    cases answer with
    | ok response =>
      intro w h
      rw [proceed, finish_value] at h
      cases h
    | error fault => exact (recover_answers left tried fault).bind fun _ => ih (tried + 1) _

/-- A carrier whose transmissions are answered answers every message. -/
theorem send_answers (htransmit : ∀ payload metadata, (c.transmit payload metadata).Answers)
    (message : String) (metadata : Metadata) : (c.send message metadata).Answers := by
  unfold send
  split
  · exact (say_answers _ _).bind fun _ => Call.answers_pure _
  · split
    · exact Call.answers_pure _
    · exact (say_answers _ _).bind fun _ => Call.answers_pure _
    · exact (Call.answers_ofExcept _).bind fun payload =>
        attemptFrom_answers (htransmit payload metadata) _ 0 none

end

/-! ### Messages -/

/-- A message is prepared, and its transmission makes one attempt. -/
def Reaches (message : String) (metadata : Metadata) : Prop :=
  ∃ payload, c.compose message metadata = .ok payload ∧ (c.transmit payload metadata).Attempts 1

/-- A message cannot be prepared: there is no payload, or a fault ends its transmission before it
begins. -/
def Stops (message : String) (metadata : Metadata) : Prop :=
  (∃ fault, c.compose message metadata = .error fault) ∨
    ∃ payload fault, c.compose message metadata = .ok payload ∧
      c.transmit payload metadata = Call.ofExcept (.error fault) ∧ c.recovers fault = false

variable {c} {message : String} {metadata : Metadata}

theorem send_of_ready (hready : c.readiness = .ready) (hdry : c.policy.dryRun.truthy = false) :
    c.send message metadata = Call.ofExcept (c.compose message metadata) >>= fun payload =>
      c.attemptFrom payload metadata c.policy.attempts 0 none := by
  simp only [send, hdry, hready]
  rfl

/-- A carrier that only pretends makes no attempt. -/
theorem send_pretends (hdry : c.policy.dryRun.truthy = true) :
    (c.send message metadata).Attempts 0 := by
  simp only [send, hdry, if_true]
  exact (c.say_attempts _ _).bind fun _ => Call.attempts_pure _

theorem send_counted (hready : c.readiness = .ready) (hdry : c.policy.dryRun.truthy = false)
    (hreaches : c.Reaches message metadata) (hretries : 0 ≤ c.policy.maxRetries) :
    (c.send message metadata).Counts 0 ∧
      ∀ w, 0 < Effect.attempts (c.send message metadata w).effects := by
  obtain ⟨payload, hcompose, htransmit⟩ := hreaches
  rw [send_of_ready hready hdry, hcompose, Call.ofExcept_ok_bind]
  obtain ⟨left, hleft⟩ := Int.eq_ofNat_of_zero_le hretries
  have hattempts : c.policy.attempts = left + 1 := by
    simp only [Policy.attempts]
    omega
  rw [hattempts]
  constructor
  · refine c.attemptFrom_counts htransmit (left + 1) 0 none ?_
    omega
  · exact c.attemptFrom_attempts_pos htransmit left 0 none

theorem send_idle (hready : c.readiness = .ready) (hdry : c.policy.dryRun.truthy = false)
    (h : c.policy.maxRetries < 0 ∨ c.Stops message metadata) :
    (c.send message metadata).Attempts 0 := by
  rw [send_of_ready hready hdry]
  have hgiveUp : ∀ last, (c.giveUp metadata last).Attempts 0 :=
    fun last => (c.say_attempts _ _).bind fun _ => Call.attempts_pure _
  rcases h with hretries | ⟨fault, hcompose⟩ | ⟨payload, fault, hcompose, htransmit, hrecovers⟩
  · have hattempts : c.policy.attempts = 0 := by
      simp only [Policy.attempts]
      omega
    rw [hattempts]
    exact (Call.attempts_ofExcept _).bind fun payload => hgiveUp none
  · rw [hcompose, Call.ofExcept_error_bind]
    exact Call.attempts_ofExcept _
  · rw [hcompose, Call.ofExcept_ok_bind]
    cases c.policy.attempts with
    | zero => exact hgiveUp none
    | succ left =>
      rw [c.attemptFrom_of_fault htransmit hrecovers]
      exact Call.attempts_ofExcept _

end Carrier

end RowAlert
