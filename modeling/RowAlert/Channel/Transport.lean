import RowAlert.Session
/-!
# RowAlert.Channel.Transport

The **transport** of a world: how it answers requests over HTTP and the steps of mail sessions.

Nothing is assumed of the answers. A request that is answered with an error status is a fault
(`HttpResponse.check`).
-/

namespace RowAlert

/-- How a world answers. -/
structure Transport (ω : Type) where
  http : HttpRequest → ω → Ending HttpResponse × ω
  mail : MailStep → ω → Ending Unit × ω

namespace HttpResponse

/-- What is said about a status that tells of an error. -/
def blame? (status : Int) : Option String :=
  if 400 ≤ status && status < 500 then some "Client Error"
  else if 500 ≤ status && status < 600 then some "Server Error"
  else none

/-- A response, or the fault that its status tells of. -/
def check (response : HttpResponse) (url : Json) : Except Fault HttpResponse :=
  match blame? response.status with
  | some blame =>
    .error (.failure .httpStatus
      s!"{response.status} {blame}: {response.reason} for url: {url.text}")
  | none => .ok response

/-- A response in a receipt. -/
def toJson (response : HttpResponse) : Json := .obj [("status_code", .int response.status)]

end HttpResponse

namespace Transport

/-- Makes a request; its response has no error status. -/
def request (t : Transport ω) (r : HttpRequest) : Call ω HttpResponse := do
  let response ← Call.perform (.http r) (t.http r)
  Call.ofExcept (response.check r.url)

/-- Takes a step of a mail session. -/
def step (t : Transport ω) (s : MailStep) : Call ω Unit := Call.perform (.mail s) (t.mail s)

end Transport

end RowAlert
