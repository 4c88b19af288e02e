import RowAlert.Channel.Carrier
import RowAlert.Channel.Transport
import RowAlert.Format.Fields
import RowAlert.Text.Lines
/-!
# RowAlert.Channel.Email

The **e-mail** channel: messages as plain-text mails.

A mail session connects, encrypts if the account says so, logs in if it has a user and a password,
sends and quits. A session that was connected is quit whether or not a later step fails. Encryption
comes before everything that must not be overheard.
-/

namespace RowAlert.Email

/-- The settings of the channel. -/
structure Account where
  host : Json
  portNumber : Json
  user : Json
  password : Json
  sender : Json
  recipients : Json
  useTls : Json
  /-- The format of the subject, in terms of the rule and the row. -/
  subject : Json

namespace Account

/-- The account in a channel's settings. -/
def ofSettings (settings : ChannelSettings) : Account where
  host := Setting.get settings "smtp_host" (.str "localhost")
  portNumber := Setting.get settings "smtp_port" (.int 587)
  user := Setting.get settings "smtp_user" .null
  password := Setting.get settings "smtp_password" .null
  sender := Setting.get settings "from_email" (.str "noreply@data-notifier.local")
  recipients := Setting.get settings "to_emails" (.arr [])
  useTls := Setting.get settings "use_tls" (.bool true)
  subject := Setting.get settings "subject" (.str "Alert from rule \x7brule_id\x7d")

/-- Is everything there that delivering needs? -/
def readiness (account : Account) (policy : Policy) : Readiness :=
  if !policy.enabled.truthy then .disabled
  else if !account.recipients.truthy then .misconfigured "No recipient emails configured"
  else .ready

/-- Does the account say to log in? -/
def logsIn (account : Account) : Bool := account.user.truthy && account.password.truthy

end Account

/-- What a mail says. -/
structure Letter where
  subject : String
  body : String
  deriving DecidableEq

/-- How much of a message its subject quotes. -/
def quotedLength : Nat := 80

/-- The first line of a message, as far as the subject quotes it. -/
def excerpt (message : String) : String :=
  String.ofList (((Text.lines message.toList).head?.getD []).take quotedLength)

/-- The subject before the message is quoted. -/
def opening (account : Account) (metadata : Metadata) : Except Fault String :=
  match account.subject with
  | .str template =>
    let known (name : String) := (name, (Entries.get? metadata name).getD (.str ""))
    Format.fill [known Metadata.ruleIdName, known Metadata.rowIndexName] template
  | value => .error (.noMember value.kind "format")

/-- The letter of a message. -/
def letter (account : Account) (message : String) (metadata : Metadata) : Except Fault Letter := do
  let subject ← opening account metadata
  let quote := excerpt message
  return ⟨if quote = "" then subject else s!"{subject}: {quote}", message⟩

/-- The mail session for a mail. -/
def converse (t : Transport ω) (account : Account) (policy : Policy) (mail : Mail) :
    Call ω Unit := do
  t.step (.connect account.host account.portNumber policy.timeout)
  Call.ensuring
    (do
      if account.useTls.truthy then t.step .secure
      if account.logsIn then t.step (.login account.user account.password)
      t.step (.send mail))
    (.emit (.mail .quit))

/-- The name of the kind of channel in reports. -/
def label : String := "EmailChannel"

/-- The answer to a mail that was sent. -/
def response (account : Account) : Json :=
  .obj [("recipients", .arr ((Setting.items? account.recipients).getD []))]

/-- The channel with some settings. -/
def carrier (t : Transport ω) (settings : ChannelSettings) : Except Fault (Carrier ω Letter) := do
  let policy ← Policy.ofSettings settings
  let account := Account.ofSettings settings
  return {
    name := "email"
    label := label
    policy := policy
    readiness := account.readiness policy
    recovers := Fault.isOf fun kind => kind.isMail || kind.isSystem
    compose := letter account
    transmit := fun letter metadata => do
      let recipients ← Call.ofExcept (Setting.joined account.recipients)
      converse t account policy ⟨letter.subject, account.sender, recipients, letter.body⟩
      let rule := (metadata.get Metadata.ruleIdName).text
      let text := s!"Sent email for rule {rule}: {letter.subject}"
      Call.ofSession (.notify ⟨.info, .channel label, text⟩)
      return response account }

end RowAlert.Email
