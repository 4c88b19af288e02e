import RowAlert.Channel.Setting
/-!
# RowAlert.Channel.Policy

The **delivery policy** of a channel: whether it delivers at all, and how often it tries.

A channel tries once more after each failure, `maxRetries` times at most, and may wait in between.
The delays are listed for the first failure, the second and so on; the last one counts for all
further failures (`delayAfter`). No listed delays mean no waiting.
-/

namespace RowAlert

/-- The settings that all channels have. -/
structure Policy where
  enabled : Json
  /-- Is delivering only pretended? -/
  dryRun : Json
  maxRetries : Int
  retryDelays : Json
  /-- The seconds that the other side has to answer in. -/
  timeout : Number

namespace Policy

/-- The delays of a channel without delays of its own, in seconds. -/
def defaultDelays : Json := .arr [.int 1, .int 2, .int 4]

/-- The policy in a channel's settings. -/
def ofSettings (settings : ChannelSettings) : Except Fault Policy := do
  let maxRetries ← Setting.integer (Setting.get settings "max_retries" (.int 0))
  let timeout ← Setting.number (Setting.get settings "timeout" (.int 10))
  return {
    enabled := Setting.get settings "enabled" (.bool true)
    dryRun := Setting.get settings "dry_run" (.bool false)
    maxRetries := maxRetries
    retryDelays := Setting.get settings "retry_delays" defaultDelays
    timeout := timeout }

/-- How many attempts there are at most. -/
def attempts (p : Policy) : Nat := (p.maxRetries + 1).toNat

/-- The last position up to `i` in a list of some length. -/
def lastUpTo (i length : Nat) : Nat := min i (length - 1)

/-- The delay after a failed attempt that came after `tried` others; none if no delays are
listed. -/
def delayAfter (p : Policy) (tried : Nat) : Except Fault (Option Json) :=
  if !p.retryDelays.truthy then .ok none
  else
    match p.retryDelays with
    | .arr delays => .ok delays[lastUpTo tried delays.length]?
    | .str s => .ok (Setting.characters s)[lastUpTo tried s.length]?
    | .obj fields => .error (.failure .key (toString (lastUpTo tried fields.length)))
    | value => .error (.ofType s!"object of type '{value.kind}' has no len()")

end Policy

end RowAlert
