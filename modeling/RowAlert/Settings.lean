import RowAlert.Channel.Setting
import RowAlert.Environment
import RowAlert.Text.Blank
import RowAlert.Text.Split
import RowAlert.Validation
/-!
# RowAlert.Settings

The **settings** of a run.

A setting is given by an argument or by an environment variable, or it has its default. Arguments
are checked, types and bounds, and all that is wrong with them is reported together. Variables are
only read; one that cannot be read ends the matter at once.

The settings of channels (`channels`) come from the environment and from the rule file, which wins
name by name; what neither says about timeout and retries is filled in from the settings of the run.
-/

namespace RowAlert

/-- The settings of a run. -/
structure Settings where
  dryRun : Bool
  /-- How many workers match and dispatch. -/
  maxWorkers : Int
  /-- How many calls to channels may be under way at a time. -/
  maxSends : Int
  /-- The seconds that a call to a channel may take. -/
  callTimeout : Number
  /-- How often a channel tries again, unless its own settings say so. -/
  channelMaxRetries : Int
  logLevel : String

/-- Why there are no settings. -/
inductive SettingsFault
  /-- Arguments are wrong. -/
  | invalid (problems : List FieldProblem)
  /-- A variable cannot be read. -/
  | unreadable (fault : Fault)

namespace Settings

/-- A setting from the arguments or from elsewhere: its value, or what is wrong with the
argument. -/
def from? (arguments : List (String × Json)) (name : String) (read : Json → Except Problem α)
    (otherwise : Except Fault α) : Except Fault (Except FieldProblem α) :=
  match Entries.get? arguments name with
  | some value => .ok ((read value).mapError (⟨name, ·⟩))
  | none => otherwise.map .ok

/-- An integer argument with a least value. -/
def integerFrom (least : Int) (value : Json) : Except Problem Int :=
  Validation.lenientInteger value >>= Validation.atLeast least

/-- A number argument that has to be positive. -/
def positiveFrom (value : Json) : Except Problem Number :=
  Validation.lenientNumber value >>= Validation.positive

/-- The integer in a variable. -/
def integerIn (env : Environment) (name default : String) : Except Fault Int :=
  Setting.integerOfText (env.text name default)

/-- The number in a variable. -/
def numberIn (env : Environment) (name default : String) : Except Fault Number :=
  Setting.numberOfText (env.text name default)

/-- The settings that every one of the given ones makes, or all their problems. -/
def collect (dryRun : Except FieldProblem Bool) (maxWorkers maxSends : Except FieldProblem Int)
    (callTimeout : Except FieldProblem Number) (channelMaxRetries : Except FieldProblem Int)
    (logLevel : Except FieldProblem String) : Except SettingsFault Settings :=
  match dryRun, maxWorkers, maxSends, callTimeout, channelMaxRetries, logLevel with
  | .ok a, .ok b, .ok c, .ok d, .ok e, .ok f => .ok ⟨a, b, c, d, e, f⟩
  | a, b, c, d, e, f =>
    .error (.invalid (Validation.problem a ++ Validation.problem b ++ Validation.problem c
      ++ Validation.problem d ++ Validation.problem e ++ Validation.problem f))

/-- The settings that arguments and environment make. -/
def make (env : Environment) (arguments : List (String × Json)) : Except SettingsFault Settings :=
  let found := do
    let dryRun ←
      from? arguments "dry_run" Validation.boolean (.ok (env.flag "NOTIFIER_DRY_RUN" false))
    let workers ←
      from? arguments "max_workers" (integerFrom 1) (integerIn env "NOTIFIER_MAX_WORKERS" "4")
    let sends ← from? arguments "max_concurrent_sends" (integerFrom 1)
      (integerIn env "NOTIFIER_MAX_CONCURRENT_SENDS" "4")
    let timeout ← from? arguments "call_timeout_seconds" positiveFrom
      (numberIn env "NOTIFIER_CALL_TIMEOUT" "10")
    let retries ← from? arguments "channel_max_retries" (integerFrom 0)
      (integerIn env "NOTIFIER_CHANNEL_MAX_RETRIES" "0")
    let level ← from? arguments "log_level" Validation.string
      (.ok (env.text "NOTIFIER_LOG_LEVEL" "INFO"))
    return (dryRun, workers, sends, timeout, retries, level)
  match found with
  | .error fault => .error (.unreadable fault)
  | .ok (dryRun, workers, sends, timeout, retries, level) =>
    collect dryRun workers sends timeout retries level

/-! ### Settings of channels -/

/-- A variable as a setting: null if it is not set. -/
def textOrNull (env : Environment) (name : String) : Json :=
  Json.ofOption .str (Entries.get? env name)

/-- The parts of a text between commas, without blanks around them and without empty ones. -/
def commaParts (text : String) : List String :=
  let parts := (Text.splitOn [','] text.toList).map Text.trim
  (parts.filter fun part => !part.isEmpty).map String.ofList

/-- The e-mail channel by the environment. -/
def email (env : Environment) : Except Fault ChannelSettings := do
  let portNumber ← integerIn env "SMTP_PORT" "587"
  let recipients := commaParts (env.text "EMAIL_TO_ADDRESSES" "")
  return [
    ("enabled", .bool (env.flag "EMAIL_ENABLED" false)),
    ("smtp_host", .str (env.text "SMTP_HOST" "localhost")),
    ("smtp_port", .int portNumber),
    ("smtp_user", textOrNull env "SMTP_USER"),
    ("smtp_password", textOrNull env "SMTP_PASSWORD"),
    ("from_email", .str (env.text "EMAIL_FROM" "noreply@data-notifier.local")),
    ("to_emails", .arr (recipients.map .str)),
    ("use_tls", .bool (env.flag "SMTP_USE_TLS" true))]

/-- The Slack channel by the environment. -/
def slack (env : Environment) : ChannelSettings :=
  [("enabled", .bool (env.flag "SLACK_ENABLED" false)),
    ("webhook_url", textOrNull env "SLACK_WEBHOOK_URL"),
    ("channel", textOrNull env "SLACK_CHANNEL"),
    ("username", .str (env.text "SLACK_USERNAME" "Data Notifier")),
    ("icon_emoji", .str (env.text "SLACK_ICON_EMOJI" ":bell:"))]

/-- The web hook channel by the environment. -/
def webhook (env : Environment) : ChannelSettings :=
  [("enabled", .bool (env.flag "WEBHOOK_ENABLED" false)),
    ("url", textOrNull env "WEBHOOK_URL"),
    ("method", .str (env.text "WEBHOOK_METHOD" "POST")),
    ("headers", .obj [])]

/-- All channels by the environment. -/
def environmentChannels (env : Environment) : Except Fault (Entries String ChannelSettings) := do
  let email ← email env
  return [("email", email), ("slack", slack env), ("webhook", webhook env)]

/-- The fields of an override; a value that does not count as true has none. -/
def overrideFields (value : Json) : Except Fault (List (String × Json)) :=
  if value.truthy then Setting.fields value else .ok []

/-- Overrides channels, one after the other. A name that no channel has is a further channel. -/
def override : Entries String ChannelSettings → List (String × Json) →
    Except Fault (Entries String ChannelSettings)
  | channels, [] => .ok channels
  | channels, (name, value) :: overrides => do
    let fields ← overrideFields value
    let settings := Entries.putAll ((Entries.get? channels name).getD []) fields
    override (Entries.put channels name settings) overrides

/-- A channel's settings with timeout and retries filled in. -/
def complete (s : Settings) (settings : ChannelSettings) : ChannelSettings :=
  let settings := Entries.putDefault settings "timeout" (.float s.callTimeout)
  Entries.putDefault settings "max_retries" (.int s.channelMaxRetries)

/-- The settings of all channels. -/
def channels (s : Settings) (env : Environment) (overrides : List (String × Json)) :
    Except Fault (Entries String ChannelSettings) := do
  let own ← environmentChannels env
  let all ← override own overrides
  return all.map fun (name, settings) => (name, s.complete settings)

/-- The variables that settings are read from. -/
def variableNames : List String :=
  ["NOTIFIER_DRY_RUN", "NOTIFIER_MAX_WORKERS", "NOTIFIER_MAX_CONCURRENT_SENDS",
    "NOTIFIER_CALL_TIMEOUT", "NOTIFIER_CHANNEL_MAX_RETRIES", "NOTIFIER_LOG_LEVEL", "EMAIL_ENABLED",
    "EMAIL_TO_ADDRESSES", "EMAIL_FROM", "SMTP_HOST", "SMTP_PORT", "SMTP_USER", "SMTP_PASSWORD",
    "SMTP_USE_TLS", "SLACK_ENABLED", "SLACK_WEBHOOK_URL", "SLACK_CHANNEL", "SLACK_USERNAME",
    "SLACK_ICON_EMOJI", "WEBHOOK_ENABLED", "WEBHOOK_URL", "WEBHOOK_METHOD"]

end Settings

end RowAlert
