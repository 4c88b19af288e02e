import RowAlert.Channel.Carrier
import RowAlert.Channel.Transport
/-!
# RowAlert.Channel.Slack

The **Slack** channel: messages to an incoming web hook of a Slack workspace.

The payload shows the message as a section and, below it, what the message is about.
-/

namespace RowAlert.Slack

/-- The settings of the channel. -/
structure Account where
  webhookUrl : Json
  /-- The Slack channel to post to, if not the hook's own. -/
  room : Json
  username : Json
  iconEmoji : Json

namespace Account

/-- The account in a channel's settings. -/
def ofSettings (settings : ChannelSettings) : Account where
  webhookUrl := Setting.get settings "webhook_url" .null
  room := Setting.get settings "channel" .null
  username := Setting.get settings "username" (.str "Data Notifier")
  iconEmoji := Setting.get settings "icon_emoji" (.str ":bell:")

/-- Is everything there that delivering needs? -/
def readiness (account : Account) (policy : Policy) : Readiness :=
  if !policy.enabled.truthy then .disabled
  else if !account.webhookUrl.truthy then .misconfigured "Slack webhook_url not configured"
  else .ready

end Account

/-- A text in the markup of Slack. -/
def markup (text : String) : Json := .obj [("type", .str "mrkdwn"), ("text", .str text)]

/-- What a message is about. -/
def context (metadata : Metadata) : String :=
  let rule := (metadata.get Metadata.ruleIdName).text
  let row := (metadata.get Metadata.rowIndexName).text
  s!"rule {rule} · row {row}"

/-- The payload of a message. -/
def payload (account : Account) (message : String) (metadata : Metadata) : Json :=
  let blocks :=
    [.obj [("type", .str "section"), ("text", markup message)],
      .obj [("type", .str "context"), ("elements", .arr [markup (context metadata)])]]
  let fields :=
    [("text", .str message), ("blocks", .arr blocks), ("username", account.username),
      ("icon_emoji", account.iconEmoji)]
  .obj (if account.room.truthy then fields ++ [("channel", account.room)] else fields)

/-- The name of the kind of channel in reports. -/
def label : String := "SlackChannel"

/-- The request that transmits a payload. -/
def request (account : Account) (policy : Policy) (payload : Json) : HttpRequest where
  method := "POST"
  url := account.webhookUrl
  headers := [("Content-Type", .str "application/json")]
  body := payload
  timeout := policy.timeout

/-- The channel with some settings. -/
def carrier (t : Transport ω) (settings : ChannelSettings) : Except Fault (Carrier ω Json) := do
  let policy ← Policy.ofSettings settings
  let account := Account.ofSettings settings
  return {
    name := "slack"
    label := label
    policy := policy
    readiness := account.readiness policy
    recovers := Fault.isOf FaultKind.isHttp
    compose := fun message metadata => .ok (payload account message metadata)
    transmit := fun payload metadata => do
      let response ← t.request (request account policy payload)
      let rule := (metadata.get Metadata.ruleIdName).text
      Call.ofSession (.notify ⟨.info, .channel label, s!"Sent Slack message for rule {rule}"⟩)
      return response.toJson }

end RowAlert.Slack
