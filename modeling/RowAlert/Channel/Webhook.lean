import RowAlert.Channel.Carrier
import RowAlert.Channel.Transport
import RowAlert.Text.LetterCase
/-!
# RowAlert.Channel.Webhook

The **web hook** channel: matches as JSON to any server.

The payload holds the message and what it is about, with all cells of the row.
-/

namespace RowAlert.Webhook

/-- The settings of the channel. -/
structure Endpoint where
  url : Json
  method : String
  /-- Headers besides the content type, which they may replace. -/
  headers : Json

namespace Endpoint

/-- The method of a request in capitals. -/
def methodOf : Json → Except Fault String
  | .str s => .ok (Text.upper s)
  | value => .error (.noMember value.kind "upper")

/-- The endpoint in a channel's settings. -/
def ofSettings (settings : ChannelSettings) : Except Fault Endpoint := do
  let method ← methodOf (Setting.get settings "method" (.str "POST"))
  return ⟨Setting.get settings "url" .null, method, Setting.get settings "headers" (.obj [])⟩

/-- The methods that a payload can be sent with. -/
def methods : List String := ["POST", "PUT"]

/-- Is everything there that delivering needs? -/
def readiness (endpoint : Endpoint) (policy : Policy) : Readiness :=
  if !policy.enabled.truthy then .disabled
  else if !endpoint.url.truthy then .misconfigured "Webhook URL not configured"
  else if !methods.contains endpoint.method then
    .misconfigured s!"Unsupported HTTP method: {endpoint.method}"
  else .ready

end Endpoint

/-- The cells of the row that a message is about. -/
def rowOf (metadata : Metadata) : Except Fault (List (String × Json)) :=
  let row := metadata.get Metadata.rowName
  if row.truthy then (Setting.fields row).map Entries.ofPairs else .ok []

/-- The payload of a message. -/
def payload (message : String) (metadata : Metadata) : Except Fault Json := do
  let row ← rowOf metadata
  return .obj
    [("rule_id", metadata.get Metadata.ruleIdName),
      ("row_index", metadata.get Metadata.rowIndexName),
      ("channel", metadata.get Metadata.channelName), ("message", .str message), ("row", .obj row)]

/-- The name of the kind of channel in reports. -/
def label : String := "WebhookChannel"

/-- The request that transmits a payload. -/
def request (endpoint : Endpoint) (policy : Policy) (payload : Json) :
    Except Fault HttpRequest := do
  let given ← Setting.fields endpoint.headers
  return {
    method := endpoint.method
    url := endpoint.url
    headers := Entries.putAll [("Content-Type", .str "application/json")] given
    body := payload
    timeout := policy.timeout }

/-- The channel with some settings. -/
def carrier (t : Transport ω) (settings : ChannelSettings) : Except Fault (Carrier ω Json) := do
  let policy ← Policy.ofSettings settings
  let endpoint ← Endpoint.ofSettings settings
  return {
    name := "webhook"
    label := label
    policy := policy
    readiness := endpoint.readiness policy
    recovers := Fault.isOf FaultKind.isHttp
    compose := payload
    transmit := fun payload metadata => do
      let r ← Call.ofExcept (request endpoint policy payload)
      let response ← t.request r
      let rule := (metadata.get Metadata.ruleIdName).text
      Call.ofSession (.notify ⟨.info, .channel label, s!"Sent webhook for rule {rule}"⟩)
      return response.toJson }

end RowAlert.Webhook
