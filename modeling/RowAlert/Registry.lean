import RowAlert.Channel.Email
import RowAlert.Channel.Slack
import RowAlert.Channel.Webhook
/-!
# RowAlert.Registry

The **registry** of channels: channels by name.

Names do not depend on letter case; the registry keeps them in lower case, and a later channel of
the same name takes the place of the earlier one. A rule may name a channel that is not registered:
that is found out when a message is to be sent, not before.
-/

namespace RowAlert

/-- The channels that the program knows how to build. -/
inductive ChannelKind
  | email
  | slack
  | webhook
  deriving DecidableEq

namespace ChannelKind

/-- The name of a kind of channel. -/
def name : ChannelKind → String
  | email => "email"
  | slack => "slack"
  | webhook => "webhook"

/-- All kinds. -/
def all : List ChannelKind := [email, slack, webhook]

/-- The kind that a name means, in any letter case. -/
def ofName? (name : String) : Option ChannelKind :=
  all.find? fun kind => kind.name = Text.lower name

/-- The channel of a kind with some settings. -/
def channel (t : Transport ω) (settings : ChannelSettings) : ChannelKind → Except Fault (Channel ω)
  | email => (Email.carrier t settings).map Carrier.toChannel
  | slack => (Slack.carrier t settings).map Carrier.toChannel
  | webhook => (Webhook.carrier t settings).map Carrier.toChannel

end ChannelKind

/-- Channels by name. -/
structure Registry (ω : Type) where
  /-- The names are in lower case. -/
  channels : Entries String (Channel ω)

/-- No channel of a name is registered. -/
structure UnknownChannel where
  name : String
  deriving DecidableEq

namespace UnknownChannel

/-- The name of this problem in reports. -/
def reportName : String := "UnsupportedChannelError"

/-- The wording of the problem. -/
def message (u : UnknownChannel) : String :=
  s!"Unsupported notification channel: {Text.quoted u.name}"

end UnknownChannel

namespace Registry

variable {ω : Type}

/-- The registry without channels. -/
def empty : Registry ω := ⟨[]⟩

/-- Registers a channel. -/
def insert (r : Registry ω) (name : String) (channel : Channel ω) : Registry ω :=
  ⟨Entries.put r.channels (Text.lower name) channel⟩

/-- The channel of a name. -/
def get (r : Registry ω) (name : String) : Except UnknownChannel (Channel ω) :=
  match Entries.get? r.channels (Text.lower name) with
  | some channel => .ok channel
  | none => .error ⟨name⟩

/-- Is a channel registered under a name? -/
def has (r : Registry ω) (name : String) : Bool := Entries.has r.channels (Text.lower name)

/-- The names in order. -/
def names (r : Registry ω) : List String := Entries.keys r.channels

/-- How many channels there are. -/
def size (r : Registry ω) : Nat := r.channels.length

/-- Reports to the operator. -/
def say (severity : Severity) (text : String) : Session ω Unit :=
  .notify ⟨severity, .registry, text⟩

/-- Registers a channel and reports it. -/
def register (r : Registry ω) (name : String) (channel : Channel ω) : Session ω (Registry ω) := do
  say .debug s!"Registered channel: {name}"
  return r.insert name channel

/-- Registers channels, one after the other. -/
def registerAll (r : Registry ω) : List (String × Channel ω) → Session ω (Registry ω)
  | [] => return r
  | (name, channel) :: channels => do
    let r ← r.register name channel
    r.registerAll channels

/-- Settings in which a dry run is asked for, if it is. -/
def withDryRun (dryRun : Bool) (settings : ChannelSettings) : ChannelSettings :=
  if dryRun then Entries.put settings "dry_run" (.bool true) else settings

/-- Registers the channel that settings under a name describe, if it is enabled. Settings of
channels that cannot be built are not even looked at. -/
def addConfigured (t : Transport ω) (dryRun : Bool) (r : Registry ω) (name : String)
    (settings : Json) : Call ω (Registry ω) :=
  match ChannelKind.ofName? name with
  | none => do
    Call.ofSession (say .warning s!"No built-in channel named '{name}', ignoring its config")
    return r
  | some kind =>
    match settings with
    | .obj fields =>
      if (Setting.get fields "enabled" (.bool false)).truthy then do
        let channel ← Call.ofExcept (kind.channel t (withDryRun dryRun fields))
        Call.ofSession (r.register name channel)
      else do
        Call.ofSession (say .info s!"Channel '{name}' disabled")
        return r
    | value => Call.ofExcept (.error (.noMember value.kind "get"))

/-- Registers the channels that settings describe. -/
def addAll (t : Transport ω) (dryRun : Bool) (r : Registry ω) :
    List (String × Json) → Call ω (Registry ω)
  | [] => return r
  | (name, settings) :: configured => do
    let r ← addConfigured t dryRun r name settings
    addAll t dryRun r configured

/-- The registry of the channels that settings describe and enable. In a dry run no channel
delivers, whatever its settings say. -/
def ofSettings (t : Transport ω) (configured : List (String × Json)) (dryRun : Bool) :
    Call ω (Registry ω) := do
  let r ← addAll t dryRun empty configured
  let names := Json.commaSeparated (r.names.map Text.quoted)
  let mode := (Json.bool dryRun).text
  Call.ofSession (say .info s!"Initialized registry with channels: [{names}] (dry_run={mode})")
  return r

end Registry

end RowAlert
