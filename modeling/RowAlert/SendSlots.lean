/-!
# RowAlert.SendSlots

**Send slots** bound how many calls to channels are under way at a time.

A call waits for a slot, but not for ever; with a slot it is submitted to a pool; it is finished
when the channel comes back. Whoever waits for the call may stop waiting, which is no business of
the slot: it stays taken until the call is finished, since the channel is still busy. Closing the
pool is no business of the slots either; the next submission opens another one.

`SendSlots.step` takes one step of one call, in every order that calls can be interleaved in. It
says which steps are possible, and it tells apart the fault of giving back more slots than there
are.
-/

namespace RowAlert

/-- How far a call has come. -/
inductive CallPhase
  /-- Waits for a slot. -/
  | waiting
  /-- Has waited too long; the channel is never called. -/
  | rejected
  /-- Has a slot and is not submitted yet. -/
  | admitted
  /-- Could not be submitted. -/
  | refused
  /-- The channel is called. Is anybody still waiting for it? -/
  | running (awaited : Bool)
  | finished
  deriving DecidableEq

/-- Does a call in this phase have a slot? -/
def CallPhase.holdsSlot : CallPhase → Bool
  | admitted | running _ => true
  | _ => false

/-- Is the channel called in this phase? -/
def CallPhase.inFlight : CallPhase → Bool
  | running _ => true
  | _ => false

/-- The slots and all calls so far, which are numbered from zero. -/
structure SendSlots where
  capacity : Nat
  free : Nat
  poolOpen : Bool
  calls : List CallPhase
  deriving DecidableEq

/-- What may happen. -/
inductive SendStep
  /-- There is one more call. -/
  | arrive
  | acquire (call : Nat)
  /-- A call has waited too long for a slot. -/
  | reject (call : Nat)
  | submit (call : Nat)
  /-- A call cannot be submitted. -/
  | refuse (call : Nat)
  /-- A channel comes back, with a receipt or with a fault. -/
  | finish (call : Nat)
  /-- Nobody waits for a call any longer. -/
  | abandon (call : Nat)
  /-- The pool is closed. -/
  | close
  deriving DecidableEq

/-- Why a step is not taken. -/
inductive StepFault
  /-- The step is not possible. -/
  | impossible
  /-- A slot was given back that nobody had. -/
  | overReleased
  deriving DecidableEq

namespace SendSlots

/-- All slots are free, and there has been no call. -/
def fresh (capacity : Nat) : SendSlots := ⟨capacity, capacity, false, []⟩

/-- Moves a call to another phase. -/
def move (s : SendSlots) (call : Nat) (phase : CallPhase) : SendSlots :=
  { s with calls := s.calls.set call phase }

/-- Gives a slot back. -/
def release (s : SendSlots) : Except StepFault SendSlots :=
  if s.free < s.capacity then .ok { s with free := s.free + 1 } else .error .overReleased

/-- Takes a step. -/
def step (s : SendSlots) : SendStep → Except StepFault SendSlots
  | .arrive => .ok { s with calls := s.calls ++ [.waiting] }
  | .acquire call =>
    if s.calls[call]? = some .waiting && 0 < s.free then
      .ok { s.move call .admitted with free := s.free - 1 }
    else .error .impossible
  | .reject call =>
    if s.calls[call]? = some .waiting then .ok (s.move call .rejected) else .error .impossible
  | .submit call =>
    if s.calls[call]? = some .admitted then
      .ok { s.move call (.running true) with poolOpen := true }
    else .error .impossible
  | .refuse call =>
    if s.calls[call]? = some .admitted then (s.move call .refused).release else .error .impossible
  | .finish call =>
    match s.calls[call]? with
    | some (.running _) => (s.move call .finished).release
    | _ => .error .impossible
  | .abandon call =>
    if s.calls[call]? = some (.running true) then .ok (s.move call (.running false))
    else .error .impossible
  | .close => .ok { s with poolOpen := false }

/-- Takes several steps, one after the other. -/
def steps (s : SendSlots) : List SendStep → Except StepFault SendSlots
  | [] => .ok s
  | x :: xs => s.step x >>= fun s => s.steps xs

/-- The slots after a step; a step that is not taken changes nothing. -/
def after (s : SendSlots) (x : SendStep) : SendSlots :=
  match s.step x with
  | .ok s => s
  | .error _ => s

/-- The number of the next call. -/
def nextCall (s : SendSlots) : Nat := s.calls.length

end SendSlots

end RowAlert
