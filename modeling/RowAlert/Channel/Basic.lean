import RowAlert.Channel.Policy
import RowAlert.Session
/-!
# RowAlert.Channel.Basic

**Channels**: where messages go.

A channel takes a message and answers with a receipt. It may fail instead, or never come back; what
it does to the world is up to it. The dispatcher knows a channel by this interface alone.
-/

namespace RowAlert

/-- What a channel answers to a message. -/
structure Receipt where
  success : Bool
  /-- The name by which the channel calls itself. -/
  channel : String
  /-- The rule that the message is about. -/
  ruleId : Json
  error : Option String
  /-- How many attempts came before the last one. -/
  retryCount : Int
  /-- What the other side answered. -/
  response : Json

/-- Is a channel in a state to deliver? -/
inductive Readiness
  | ready
  | disabled
  /-- Something is missing or wrong, which is reported. -/
  | misconfigured (complaint : String)
  deriving DecidableEq

/-- A way to notify somebody. -/
structure Channel (ω : Type) where
  /-- The name by which the channel calls itself. -/
  name : String
  /-- The kind of channel, as it is shown. -/
  label : String
  policy : Policy
  readiness : Readiness
  send : String → Metadata → Call ω Receipt

namespace Channel

/-- The text of a channel in reports. -/
def shown (channel : Channel ω) : String :=
  s!"{channel.label}(enabled={channel.policy.enabled.text})"

end Channel

namespace Metadata

/-- The name of the rule's id. -/
def ruleIdName : String := "rule_id"

/-- The name of the row's index. -/
def rowIndexName : String := "row_index"

/-- The name of the channel that the rule asks for. -/
def channelName : String := "channel"

/-- The name of the row's cells. -/
def rowName : String := "row"

/-- The name of the list of placeholders that did not resolve. -/
def missingName : String := "missing_fields"

/-- What is known under a name, or null. -/
def get (metadata : Metadata) (name : String) : Json := (Entries.get? metadata name).getD .null

end Metadata

end RowAlert
