import RowAlert.Text.Quoted
/-!
# RowAlert.Fault

**Faults**: why an attempt to do something failed.

A fault is a delivery that failed, with the channel and the reason, or a failure of some kind with a
text. Kinds form families (`isHttp`, `isMail`, `isSystem`), because which faults a channel tries
again after is stated by family. A timeout is of its own family as well: whoever waits for a call
cannot tell a timeout that the call reports from one of its own.
-/

namespace RowAlert

/-- The kind of a failure. -/
inductive FaultKind
  | httpConnection
  | httpTimeout
  | httpStatus
  | mail
  | mailDisconnected
  | timeout
  | system
  | runtime
  | value
  /-- A value is of a kind that an operation does not take. -/
  | type
  /-- A name stands for nothing. -/
  | key
  /-- A position is out of range. -/
  | index
  /-- A value lacks a member. -/
  | member
  | overflow
  /-- Bytes are no text. -/
  | encoding
  /-- There is no room for a value. -/
  | memory
  deriving DecidableEq

namespace FaultKind

/-- The name of a kind in reports. -/
def name : FaultKind → String
  | httpConnection => "ConnectionError"
  | httpTimeout => "Timeout"
  | httpStatus => "HTTPError"
  | mail => "SMTPException"
  | mailDisconnected => "SMTPServerDisconnected"
  | timeout => "TimeoutError"
  | system => "OSError"
  | runtime => "RuntimeError"
  | value => "ValueError"
  | type => "TypeError"
  | key => "KeyError"
  | index => "IndexError"
  | member => "AttributeError"
  | overflow => "OverflowError"
  | encoding => "UnicodeDecodeError"
  | memory => "MemoryError"

/-- Failures of an HTTP request. -/
def isHttp : FaultKind → Bool
  | httpConnection | httpTimeout | httpStatus => true
  | _ => false

/-- Failures of a mail session. -/
def isMail : FaultKind → Bool
  | mail | mailDisconnected => true
  | _ => false

/-- Failures of the operating system and everything it carries. -/
def isSystem (k : FaultKind) : Bool :=
  k.isHttp || k.isMail || k = timeout || k = system

end FaultKind

/-- Why something failed. -/
inductive Fault
  /-- A channel could not deliver. -/
  | delivery (channel reason : String) (retries : Int)
  | failure (kind : FaultKind) (text : String)
  deriving DecidableEq

namespace Fault

/-- The name of a failed delivery in reports. -/
def deliveryName : String := "TransportError"

/-- The name of a fault in reports. -/
def name : Fault → String
  | delivery .. => deliveryName
  | failure kind _ => kind.name

/-- The wording of a fault. -/
def message : Fault → String
  | delivery channel reason _ => s!"{channel}: {reason}"
  | failure _ text => text

/-- What a channel reports as the reason when it gives up after this fault. -/
def reason : Fault → String
  | delivery _ reason _ => reason
  | failure _ text => text

/-- Is it a failure of a kind in a family? -/
def isOf (family : FaultKind → Bool) : Fault → Bool
  | delivery .. => false
  | failure kind _ => family kind

/-- Is it a failed delivery? -/
def isDelivery : Fault → Bool
  | delivery .. => true
  | failure .. => false

/-- Is it a failure with a value, bytes that are no text among them? -/
def isValue (f : Fault) : Bool := f.isOf fun kind => kind = .value || kind = .encoding

/-- Is it a timeout? -/
def isTimeout (f : Fault) : Bool := f.isOf (· = .timeout)

/-- A failure with a value. -/
def ofValue (text : String) : Fault := failure .value text

/-- A failure with the kind of a value. -/
def ofType (text : String) : Fault := failure .type text

/-- A name that stands for nothing; it is shown in quotes. -/
def unknownKey (name : String) : Fault := failure .key (Text.quoted name)

/-- A value of some kind lacks a member. -/
def noMember (kind name : String) : Fault :=
  failure .member s!"'{kind}' object has no attribute '{name}'"

end Fault

end RowAlert
