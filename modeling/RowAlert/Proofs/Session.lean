import RowAlert.Session
/-!
# RowAlert.Proofs.Session

**Quiet sessions**: activities that report to the operator and do nothing else.

A quiet session gives one value whatever the world is, leaves the world as it is, and has no effect
but notices. Quiet sessions in sequence are quiet, so that a whole activity is seen to be quiet from
its parts.
-/

namespace RowAlert

/-- Does the effect reach nobody but the operator? -/
def Effect.isNotice : Effect → Bool
  | notice _ => true
  | _ => false

/-- The effects that reach the world outside. -/
def Effect.outside (effects : List Effect) : List Effect := effects.filter fun e => !e.isNotice

theorem Effect.outside_append (es fs : List Effect) :
    Effect.outside (es ++ fs) = Effect.outside es ++ Effect.outside fs :=
  List.filter_append es fs

theorem Effect.outside_flatMap {α : Type} (as : List α) (f : α → List Effect) :
    Effect.outside (as.flatMap f) = as.flatMap fun a => Effect.outside (f a) :=
  List.filter_flatMap

theorem Effect.outside_notices (ns : List Notice) : Effect.outside (ns.map .notice) = [] := by
  simp [Effect.outside, Effect.isNotice]

namespace Session

variable {ω α β : Type}

/-- What follows a session comes after it. -/
theorem bind_of_run {x : Session ω α} {w w' : ω} {a : α} {effects : List Effect}
    (h : x w = ⟨a, effects, w'⟩) (f : α → Session ω β) :
    (x >>= f) w = ⟨(f a w').value, effects ++ (f a w').effects, (f a w').world⟩ := by
  rw [bind_apply, h]

/-- The session gives this value, whatever the world is, and only reports. -/
structure Quiet (x : Session ω α) (a : α) : Prop where
  value (w : ω) : (x w).value = a
  world (w : ω) : (x w).world = w
  outside (w : ω) : Effect.outside (x w).effects = []

namespace Quiet

theorem run_eq {x : Session ω α} {a : α} (h : Quiet x a) (w : ω) :
    x w = ⟨a, (x w).effects, w⟩ := by
  calc x w = ⟨(x w).value, (x w).effects, (x w).world⟩ := rfl
    _ = ⟨a, (x w).effects, w⟩ := by rw [h.value, h.world]

theorem pure (a : α) : Quiet (Pure.pure a : Session ω α) a :=
  ⟨fun _ => rfl, fun _ => rfl, fun _ => rfl⟩

theorem bind {x : Session ω α} {f : α → Session ω β} {a : α} {b : β} (hx : Quiet x a)
    (hf : Quiet (f a) b) : Quiet (x >>= f) b := by
  constructor
  · intro w
    rw [value_bind, hx.value, hx.world, hf.value]
  · intro w
    rw [world_bind, hx.value, hx.world, hf.world]
  · intro w
    rw [effects_bind, Effect.outside_append, hx.value, hx.world, hx.outside, hf.outside]
    rfl

theorem notify (n : Notice) : Quiet (Session.notify n : Session ω Unit) () :=
  ⟨fun _ => rfl, fun _ => rfl, fun _ => rfl⟩

theorem notifyAll (ns : List Notice) : Quiet (Session.notifyAll ns : Session ω Unit) () :=
  ⟨fun _ => rfl, fun _ => rfl, fun _ => Effect.outside_notices ns⟩

end Quiet

end Session

/-- A quiet session as a call returns and leaves the world as it was. -/
theorem Call.ofSession_of_quiet {ω α : Type} {x : Session ω α} {a : α} (h : x.Quiet a) (w : ω) :
    Call.ofSession x w = ⟨.returned a, (x w).effects, w⟩ := by
  rw [ofSession, h.value, h.world]

end RowAlert
