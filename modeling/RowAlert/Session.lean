import RowAlert.Effect
import RowAlert.Fault
/-!
# RowAlert.Session

**Sessions**: activities in a world outside, of which nothing is assumed.

`Session ω α` is an activity that may consult a world of type `ω`, has effects, and gives a value.
The world stands for whatever decides how requests are answered; a statement about a session for
every `ω` and every way to consult it holds whatever the world does.

`Call ω α` is a session that may fail or never come back. A call that never comes back leaves what
it did so far, and nothing after it happens (`Ending.hanging`).

The effects of a sequence are the effects of its parts, one after the other (`effects_bind`).
-/

namespace RowAlert

/-- The outcome of an activity. -/
structure Run (ω α : Type) where
  value : α
  /-- What was done, in order. -/
  effects : List Effect
  world : ω

/-- An activity in a world. -/
def Session (ω α : Type) : Type := ω → Run ω α

namespace Session

variable {ω α β : Type}

instance : Monad (Session ω) where
  pure a := fun w => ⟨a, [], w⟩
  bind x f := fun w =>
    let r := x w
    let s := f r.value r.world
    ⟨s.value, r.effects ++ s.effects, s.world⟩

@[simp] theorem pure_apply (a : α) (w : ω) : (pure a : Session ω α) w = ⟨a, [], w⟩ := rfl

theorem bind_apply (x : Session ω α) (f : α → Session ω β) (w : ω) :
    (x >>= f) w =
      ⟨(f (x w).value (x w).world).value, (x w).effects ++ (f (x w).value (x w).world).effects,
        (f (x w).value (x w).world).world⟩ := rfl

@[simp] theorem value_bind (x : Session ω α) (f : α → Session ω β) (w : ω) :
    ((x >>= f) w).value = (f (x w).value (x w).world).value := rfl

@[simp] theorem effects_bind (x : Session ω α) (f : α → Session ω β) (w : ω) :
    ((x >>= f) w).effects = (x w).effects ++ (f (x w).value (x w).world).effects := rfl

@[simp] theorem world_bind (x : Session ω α) (f : α → Session ω β) (w : ω) :
    ((x >>= f) w).world = (f (x w).value (x w).world).world := rfl

instance : LawfulMonad (Session ω) := LawfulMonad.mk' (Session ω)
  (by
    intro α x; funext w
    show (⟨(x w).value, (x w).effects ++ [], (x w).world⟩ : Run ω α) = x w
    simp)
  (by intro α β x f; funext w; simp [Bind.bind, Pure.pure])
  (by intro α β γ x f g; funext w; simp [Bind.bind, List.append_assoc])

/-- Has an effect. -/
def emit (e : Effect) : Session ω Unit := fun w => ⟨(), [e], w⟩

@[simp] theorem emit_apply (e : Effect) (w : ω) : (emit e : Session ω Unit) w = ⟨(), [e], w⟩ := rfl

/-- Reports to the operator. -/
def notify (n : Notice) : Session ω Unit := emit (.notice n)

/-- Reports several notices, one after the other. -/
def notifyAll (ns : List Notice) : Session ω Unit := fun w => ⟨(), ns.map .notice, w⟩

/-- Asks the world. -/
def consult (ask : ω → α × ω) : Session ω α := fun w => ⟨(ask w).1, [], (ask w).2⟩

/-- Goes through a list in order. -/
def forEach (f : α → Session ω β) : List α → Session ω (List β)
  | [] => pure []
  | a :: as => do
    let b ← f a
    let bs ← forEach f as
    return b :: bs

end Session

/-- How a call ends. -/
inductive Ending (α : Type)
  | returned (a : α)
  | failed (f : Fault)
  /-- The call never comes back. -/
  | hanging

namespace Ending

/-- A result or a fault as an ending. -/
def ofExcept : Except Fault α → Ending α
  | .ok a => returned a
  | .error f => failed f

end Ending

/-- An activity that may fail or never come back. -/
def Call (ω α : Type) : Type := Session ω (Ending α)

namespace Call

variable {ω α β : Type}

/-- The session that goes on after a call has ended. -/
def andThen (x : Call ω α) (f : α → Call ω β) : Call ω β := fun w =>
  match x w with
  | ⟨.returned a, effects, w⟩ =>
    let r := f a w
    ⟨r.value, effects ++ r.effects, r.world⟩
  | ⟨.failed f, effects, w⟩ => ⟨.failed f, effects, w⟩
  | ⟨.hanging, effects, w⟩ => ⟨.hanging, effects, w⟩

instance : Monad (Call ω) where
  pure a := fun w => ⟨.returned a, [], w⟩
  bind := andThen

@[simp] theorem pure_apply (a : α) (w : ω) : (pure a : Call ω α) w = ⟨.returned a, [], w⟩ := rfl

theorem bind_apply (x : Call ω α) (f : α → Call ω β) (w : ω) : (x >>= f) w = andThen x f w := rfl

/-- What follows a call that returns comes after it. -/
theorem bind_of_returned {x : Call ω α} {w w' : ω} {a : α} {effects : List Effect}
    (h : x w = ⟨.returned a, effects, w'⟩) (f : α → Call ω β) :
    (x >>= f) w = ⟨(f a w').value, effects ++ (f a w').effects, (f a w').world⟩ := by
  simp [bind_apply, andThen, h]

/-- Nothing follows a call that fails. -/
theorem bind_of_failed {x : Call ω α} {w w' : ω} {fault : Fault} {effects : List Effect}
    (h : x w = ⟨.failed fault, effects, w'⟩) (f : α → Call ω β) :
    (x >>= f) w = ⟨.failed fault, effects, w'⟩ := by
  simp [bind_apply, andThen, h]

/-- Nothing follows a call that never comes back. -/
theorem bind_of_hanging {x : Call ω α} {w w' : ω} {effects : List Effect}
    (h : x w = ⟨.hanging, effects, w'⟩) (f : α → Call ω β) :
    (x >>= f) w = ⟨.hanging, effects, w'⟩ := by
  simp [bind_apply, andThen, h]

instance : LawfulMonad (Call ω) := LawfulMonad.mk' (Call ω)
  (by
    intro α x
    funext w
    -- A call that returns adds nothing to its effects by returning.
    show andThen x pure w = x w
    rcases h : x w with ⟨ending, effects, w'⟩
    cases ending <;> simp [andThen, h])
  (by
    intro α β x f
    funext w
    show andThen (pure x) f w = f x w
    simp [andThen])
  (by
    intro α β γ x f g
    funext w
    show andThen (andThen x f) g w = andThen x (fun a => andThen (f a) g) w
    rcases h : x w with ⟨ending, effects, w'⟩
    cases ending with
    | returned a =>
      rcases hf : f a w' with ⟨ending, effects', w''⟩
      cases ending <;> simp [andThen, h, hf, List.append_assoc]
    | failed fault => simp [andThen, h]
    | hanging => simp [andThen, h])

/-- A session as a call that returns. -/
def ofSession (x : Session ω α) : Call ω α := fun w =>
  let r := x w
  ⟨.returned r.value, r.effects, r.world⟩

/-- A result or a fault as a call. -/
def ofExcept (x : Except Fault α) : Call ω α := fun w => ⟨Ending.ofExcept x, [], w⟩

/-- Has an effect and asks the world how it ends. -/
def perform (e : Effect) (ask : ω → Ending α × ω) : Call ω α := fun w => ⟨(ask w).1, [e], (ask w).2⟩

/-- Does something last, whether the call returns or fails; not if it never comes back. -/
def ensuring (x : Call ω α) (last : Session ω Unit) : Call ω α := fun w =>
  match x w with
  | ⟨.hanging, effects, w⟩ => ⟨.hanging, effects, w⟩
  | ⟨ending, effects, w⟩ =>
    let r := last w
    ⟨ending, effects ++ r.effects, r.world⟩

/-- Catches the faults that a test selects. -/
def catching (selects : Fault → Bool) (x : Call ω α) : Call ω (Except Fault α) := fun w =>
  match x w with
  | ⟨.returned a, effects, w⟩ => ⟨.returned (.ok a), effects, w⟩
  | ⟨.failed f, effects, w⟩ =>
    if selects f then ⟨.returned (.error f), effects, w⟩ else ⟨.failed f, effects, w⟩
  | ⟨.hanging, effects, w⟩ => ⟨.hanging, effects, w⟩

end Call

end RowAlert
