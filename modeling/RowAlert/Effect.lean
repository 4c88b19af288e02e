import RowAlert.Json.Basic
import RowAlert.Notice
/-!
# RowAlert.Effect

**Effects**: everything the program does to the world outside.

Effects are data. A run produces the list of its effects in order, so that a statement about what
happens, and in which order, is a statement about a list.
-/

namespace RowAlert

/-- A request over HTTP. -/
structure HttpRequest where
  method : String
  url : Json
  headers : List (String × Json)
  /-- The payload, which is sent as JSON. -/
  body : Json
  timeout : Number

/-- What a server answers. -/
structure HttpResponse where
  status : Int
  reason : String

/-- A mail. -/
structure Mail where
  subject : String
  sender : Json
  recipients : String
  body : String

/-- A step of a mail session. -/
inductive MailStep
  | connect (host portNumber : Json) (timeout : Number)
  /-- Encrypts the session. -/
  | secure
  | login (user password : Json)
  | send (mail : Mail)
  | quit

/-- What is known about the match that a message is about, by name. -/
abbrev Metadata := List (String × Json)

/-- What a run does to the world outside. -/
inductive Effect
  | notice (n : Notice)
  | http (request : HttpRequest)
  | mail (step : MailStep)
  /-- A message was handed to a channel of the embedding program. -/
  | handed (channel message : String) (metadata : Metadata)
  /-- Some seconds were waited. -/
  | pause (seconds : Json)

end RowAlert
