import RowAlert.Channel.Basic
/-!
# RowAlert.Channel.Carrier

**Carriers**: channels that compose a payload once and transmit it, with retries.

A carrier is given by what is special about it: its readiness, its payload, its transmission and the
family of faults after which it tries again. `Carrier.send` is the same for all of them:

* In a dry run nothing happens but a notice, and the receipt tells of success.
* A carrier that is not ready refuses.
* Otherwise the payload is transmitted until an attempt succeeds, a fault outside the family occurs,
  or the attempts of the policy are used up.

`attemptFrom` is structural on the attempts that are left, so a carrier makes at most
`Policy.attempts` transmissions, all of the same payload.
-/

namespace RowAlert

/-- A channel that transmits payloads of type `π`. -/
structure Carrier (ω π : Type) where
  name : String
  label : String
  policy : Policy
  readiness : Readiness
  /-- The faults of a transmission after which there may be another attempt. -/
  recovers : Fault → Bool
  compose : String → Metadata → Except Fault π
  /-- Transmits a payload; the value is the answer of the other side. -/
  transmit : π → Metadata → Call ω Json

namespace Carrier

variable {ω π : Type} (c : Carrier ω π)

/-- Reports to the operator. -/
def say (severity : Severity) (text : String) : Call ω Unit :=
  .ofSession (.notify ⟨severity, .channel c.label, text⟩)

/-- The receipt of a delivery. -/
def delivered (metadata : Metadata) (tried : Nat) (response : Json) : Receipt :=
  ⟨true, c.name, metadata.get Metadata.ruleIdName, none, tried, response⟩

/-- The receipt of a message that was not delivered. -/
def undelivered (metadata : Metadata) (error : String) (retryCount : Int) : Receipt :=
  ⟨false, c.name, metadata.get Metadata.ruleIdName, some error, retryCount, .null⟩

/-- The answer of a dry run. -/
def dryRunResponse : Json := .obj [("dry_run", .bool true)]

/-- The end of all attempts, with the fault of the last one if there was any. -/
def giveUp (metadata : Metadata) (last : Option Fault) : Call ω Receipt := do
  let reason := last.elim Json.null.text Fault.reason
  let fault := Fault.delivery c.name reason c.policy.maxRetries
  c.say .error s!"Failed to send to {c.name}: {fault.message}"
  return c.undelivered metadata fault.message c.policy.maxRetries

/-- Waits after a failed attempt, if delays are listed. -/
def wait (tried : Nat) : Call ω Unit := do
  match ← Call.ofExcept (c.policy.delayAfter tried) with
  | some delay => Call.ofSession (.emit (.pause delay))
  | none => return ()

/-- Makes the attempts that are left, after `tried` failed ones of which the last had the fault
`last`. There is no waiting after the last attempt. -/
def attemptFrom (payload : π) (metadata : Metadata) : Nat → Nat → Option Fault → Call ω Receipt
  | 0, _, last => c.giveUp metadata last
  | left + 1, tried, _ => do
    match ← Call.catching c.recovers (c.transmit payload metadata) with
    | .ok response =>
      if tried > 0 then c.say .info s!"Retry succeeded on attempt {tried + 1}"
      return c.delivered metadata tried response
    | .error fault =>
      let all := c.policy.maxRetries + 1
      c.say .warning s!"Send failed on attempt {tried + 1}/{all}: {fault.message}"
      -- The last failure is not followed by a pause.
      if left > 0 then c.wait tried
      attemptFrom payload metadata left (tried + 1) (some fault)

/-- The receipt of a carrier that is not ready. -/
def refuse (metadata : Metadata) : Receipt :=
  c.undelivered metadata s!"{c.name} not configured correctly" 0

/-- Sends a message. -/
def send (message : String) (metadata : Metadata) : Call ω Receipt :=
  if c.policy.dryRun.truthy then do
    c.say .info s!"[DRY RUN] Would send to {c.name}: {message}"
    return c.delivered metadata 0 dryRunResponse
  else
    match c.readiness with
    | .disabled => return c.refuse metadata
    | .misconfigured complaint => do
      c.say .error complaint
      return c.refuse metadata
    | .ready => do
      -- Composed once: every attempt transmits the same payload.
      let payload ← Call.ofExcept (c.compose message metadata)
      c.attemptFrom payload metadata c.policy.attempts 0 none

/-- The carrier as a channel. -/
def toChannel : Channel ω := ⟨c.name, c.label, c.policy, c.readiness, c.send⟩

end Carrier

end RowAlert
