import RowAlert.Channel.Transport
import RowAlert.Proofs.Session
/-!
# RowAlert.Proofs.Calls

**What can be relied on in a call**, whatever the world does.

A call answers if it always comes back (`Call.Answers`), and it returns if it comes back with a value
(`Call.Returns`). It may be known how many attempts at a delivery it makes, however it ends
(`Call.Attempts`): an attempt is a request, or a connection to a mail server. All this passes from
parts to a sequence.
-/

namespace RowAlert

/-! ### Attempts -/

namespace Effect

/-- Does the effect begin a delivery? -/
def isAttempt : Effect → Bool
  | http _ => true
  | mail (.connect ..) => true
  | _ => false

/-- How many attempts at a delivery there are among effects. -/
def attempts (effects : List Effect) : Nat := effects.countP isAttempt

@[simp] theorem attempts_append (es fs : List Effect) :
    attempts (es ++ fs) = attempts es + attempts fs :=
  List.countP_append

/-- Attempts are among the effects that reach the world outside. -/
theorem attempts_outside (es : List Effect) : attempts (outside es) = attempts es := by
  rw [attempts, outside, List.countP_filter]
  refine List.countP_congr fun e _ => ?_
  cases e <;> simp [isAttempt, isNotice]

theorem attempts_of_outside {es : List Effect} (h : outside es = []) : attempts es = 0 := by
  rw [← attempts_outside, h]
  rfl

end Effect

namespace Call

variable {ω α β : Type}

theorem ofExcept_ok_bind (a : α) (f : α → Call ω β) : (ofExcept (.ok a) >>= f) = f a := by
  funext w
  exact bind_of_returned rfl f

theorem ofExcept_error_bind (fault : Fault) (f : α → Call ω β) :
    (ofExcept (.error fault) >>= f) = ofExcept (.error fault) := by
  funext w
  exact bind_of_failed rfl f

/-! ### Calls that come back -/

/-- The call comes back, with a value or with a fault. -/
def Answers (x : Call ω α) : Prop := ∀ w, (x w).value ≠ .hanging

theorem answers_pure (a : α) : (pure a : Call ω α).Answers := fun _ h => nomatch h

theorem answers_ofSession (x : Session ω α) : (ofSession x).Answers := fun _ h => nomatch h

theorem answers_ofExcept (x : Except Fault α) : (ofExcept x : Call ω α).Answers := by
  intro w
  cases x <;> exact fun h => nomatch h

theorem Answers.bind {x : Call ω α} {f : α → Call ω β} (hx : x.Answers)
    (hf : ∀ a, (f a).Answers) : (x >>= f).Answers := by
  intro w
  have hvalue := hx w
  rcases hrun : x w with ⟨ending, effects, w'⟩
  cases ending with
  | returned a =>
    rw [bind_of_returned hrun]
    exact hf a w'
  | failed fault =>
    rw [bind_of_failed hrun]
    exact fun h => nomatch h
  | hanging =>
    rw [hrun] at hvalue
    exact absurd rfl hvalue

theorem Answers.catching {x : Call ω α} (hx : x.Answers) (selects : Fault → Bool) :
    (catching selects x).Answers := by
  intro w
  have hvalue := hx w
  unfold Call.catching
  rcases hrun : x w with ⟨ending, effects, w'⟩
  cases ending with
  | returned a => exact fun h => nomatch h
  | failed fault =>
    by_cases hselects : selects fault = true <;> simp [hselects]
  | hanging =>
    rw [hrun] at hvalue
    exact absurd rfl hvalue

theorem Answers.ensuring {x : Call ω α} (hx : x.Answers) (last : Session ω Unit) :
    (ensuring x last).Answers := by
  intro w
  have hvalue := hx w
  unfold Call.ensuring
  rcases hrun : x w with ⟨ending, effects, w'⟩
  cases ending with
  | returned a => exact fun h => nomatch h
  | failed fault => exact fun h => nomatch h
  | hanging =>
    rw [hrun] at hvalue
    exact absurd rfl hvalue

/-- The call comes back with a value. -/
def Returns (x : Call ω α) : Prop := ∀ w, ∃ a, (x w).value = .returned a

theorem returns_pure (a : α) : (pure a : Call ω α).Returns := fun _ => ⟨a, rfl⟩

theorem returns_ofSession (x : Session ω α) : (ofSession x).Returns := fun w => ⟨(x w).value, rfl⟩

theorem Returns.bind {x : Call ω α} {f : α → Call ω β} (hx : x.Returns)
    (hf : ∀ a, (f a).Returns) : (x >>= f).Returns := by
  intro w
  obtain ⟨a, ha⟩ := hx w
  have hrun : x w = ⟨.returned a, (x w).effects, (x w).world⟩ := by rw [← ha]
  obtain ⟨b, hb⟩ := hf a (x w).world
  exact ⟨b, by rw [bind_of_returned hrun, hb]⟩

/-! ### Calls that make attempts -/

/-- The call makes this many attempts, however it ends. -/
def Attempts (x : Call ω α) (n : Nat) : Prop := ∀ w, Effect.attempts (x w).effects = n

theorem Attempts.of_run {x : Call ω α} {n : Nat} (hx : x.Attempts n) {w w' : ω} {ending : Ending α}
    {effects : List Effect} (hrun : x w = ⟨ending, effects, w'⟩) : Effect.attempts effects = n := by
  have h := hx w
  rwa [hrun] at h

theorem attempts_pure (a : α) : (pure a : Call ω α).Attempts 0 := fun _ => rfl

theorem attempts_ofExcept (x : Except Fault α) : (ofExcept x : Call ω α).Attempts 0 := fun _ => rfl

theorem attempts_ofSession {x : Session ω α} {a : α} (h : x.Quiet a) : (ofSession x).Attempts 0 :=
  fun w => Effect.attempts_of_outside (h.outside w)

/-- Attempts are made in the first part, and none behind it. -/
theorem Attempts.bind {x : Call ω α} {f : α → Call ω β} {n : Nat} (hx : x.Attempts n)
    (hf : ∀ a, (f a).Attempts 0) : (x >>= f).Attempts n := by
  intro w
  rcases hrun : x w with ⟨ending, effects, w'⟩
  have hfirst := hx.of_run hrun
  cases ending with
  | returned a => rw [bind_of_returned hrun, Effect.attempts_append, hfirst, hf a w', Nat.add_zero]
  | failed fault => rwa [bind_of_failed hrun]
  | hanging => rwa [bind_of_hanging hrun]

theorem Attempts.catching {x : Call ω α} {n : Nat} (hx : x.Attempts n) (selects : Fault → Bool) :
    (catching selects x).Attempts n := by
  intro w
  unfold Call.catching
  rcases hrun : x w with ⟨ending, effects, w'⟩
  have hfirst := hx.of_run hrun
  cases ending with
  | failed fault => by_cases hselects : selects fault = true <;> simpa [hselects] using hfirst
  | _ => exact hfirst

theorem Attempts.ensuring {x : Call ω α} {n : Nat} (hx : x.Attempts n) {last : Session ω Unit}
    (hlast : ∀ w, Effect.attempts (last w).effects = 0) : (ensuring x last).Attempts n := by
  intro w
  unfold Call.ensuring
  rcases hrun : x w with ⟨ending, effects, w'⟩
  have hfirst := hx.of_run hrun
  cases ending with
  | hanging => exact hfirst
  | _ => exact (Effect.attempts_append _ _).trans (by rw [hfirst, hlast, Nat.add_zero])

end Call

/-! ### Transports -/

namespace Transport

variable {ω : Type}

/-- Every request and every step of a mail session is answered. -/
structure Answers (t : Transport ω) : Prop where
  http (r : HttpRequest) (w : ω) : (t.http r w).1 ≠ .hanging
  mail (s : MailStep) (w : ω) : (t.mail s w).1 ≠ .hanging

theorem Answers.request {t : Transport ω} (h : t.Answers) (r : HttpRequest) :
    (t.request r).Answers :=
  Call.Answers.bind (h.http r) fun _ => Call.answers_ofExcept _

theorem Answers.step {t : Transport ω} (h : t.Answers) (s : MailStep) : (t.step s).Answers :=
  h.mail s

theorem request_attempts (t : Transport ω) (r : HttpRequest) : (t.request r).Attempts 1 :=
  Call.Attempts.bind (fun _ => rfl) fun _ => Call.attempts_ofExcept _

end Transport

end RowAlert
