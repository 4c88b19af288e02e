import RowAlert.Dispatcher
/-!
# RowAlert.Proofs.SendSlots

The **books of the send slots**: over every run of steps, however the calls are interleaved, no slot
is lost and none is given back twice.

Everything is read off one inversion lemma (`step_cases`): a step that is taken adds a call, closes
the pool, or moves one call from a phase to another, and then the free slots change by exactly what
the two phases hold. Two invariants follow, each from a lemma on one step and an induction on the
run:

* `Balanced`: the free slots and the slots held by calls are all slots there are.
* `Explains`: the steps taken for a call are the ones its phase tells of, each of them once.
-/

namespace RowAlert

/-! ### The steps that concern the slot of a call -/

namespace CallPhase

/-- The slots that a call in this phase has. -/
def slots (p : CallPhase) : Nat := if p.holdsSlot then 1 else 0

theorem holdsSlot_of_inFlight {p : CallPhase} (h : p.inFlight = true) : p.holdsSlot = true := by
  cases p with
  | running awaited => rfl
  | _ => cases h

end CallPhase

namespace SendStep

/-- The step moves the call from the one phase to the other. -/
inductive Moves : SendStep → Nat → CallPhase → CallPhase → Prop
  | acquire (call : Nat) : Moves (.acquire call) call .waiting .admitted
  | reject (call : Nat) : Moves (.reject call) call .waiting .rejected
  | submit (call : Nat) : Moves (.submit call) call .admitted (.running true)
  | refuse (call : Nat) : Moves (.refuse call) call .admitted .refused
  | finish (call : Nat) (awaited : Bool) : Moves (.finish call) call (.running awaited) .finished
  | abandon (call : Nat) : Moves (.abandon call) call (.running true) (.running false)

/-- The slots that a step takes. -/
def taken : SendStep → Nat
  | acquire _ => 1
  | _ => 0

/-- The slots that a step gives back. -/
def givenBack : SendStep → Nat
  | refuse _ | finish _ => 1
  | _ => 0

/-- What a move does to the slots of its call is what the step takes and gives back. -/
theorem Moves.slots_eq {x : SendStep} {call : Nat} {p q : CallPhase} (h : x.Moves call p q) :
    q.slots + x.givenBack = p.slots + x.taken := by
  cases h <;> rfl

end SendStep

namespace SendSlots

/-- How many slots calls have. -/
def held (s : SendSlots) : Nat := s.calls.countP CallPhase.holdsSlot

/-- How many channels are being called. -/
def inFlight (s : SendSlots) : Nat := s.calls.countP CallPhase.inFlight

/-- Does the call have a slot? -/
def holds (s : SendSlots) (call : Nat) : Bool := s.calls[call]?.any CallPhase.holdsSlot

theorem inFlight_le_held (s : SendSlots) : s.inFlight ≤ s.held :=
  List.countP_mono_left fun _ _ h => CallPhase.holdsSlot_of_inFlight h

theorem held_pos {s : SendSlots} {call : Nat} {p : CallPhase} (hp : s.calls[call]? = some p)
    (hslot : p.holdsSlot = true) : 0 < s.held :=
  List.countP_pos_iff.2 ⟨p, List.mem_of_getElem? hp, hslot⟩

/-- Moving a call changes the number of held slots by what its two phases hold. -/
theorem held_move {s : SendSlots} {call : Nat} {p : CallPhase} (hp : s.calls[call]? = some p)
    (q : CallPhase) : (s.move call q).held + p.slots = s.held + q.slots := by
  obtain ⟨hlt, rfl⟩ := List.getElem?_eq_some_iff.1 hp
  have hmine : s.calls[call].slots ≤ s.held := by
    unfold CallPhase.slots
    split
    · exact held_pos hp ‹_›
    · exact Nat.zero_le _
  simp only [held, move, CallPhase.slots, List.countP_set hlt] at hmine ⊢
  omega

theorem release_eq_ok {s t : SendSlots} (h : s.release = .ok t) :
    t = { s with free := s.free + 1 } := by
  unfold release at h
  split at h
  · exact (Except.ok.inj h).symm
  · cases h

/-- A call with a slot can give it back. -/
theorem release_of_lt {s : SendSlots} (h : s.free < s.capacity) :
    s.release = .ok { s with free := s.free + 1 } := by
  rw [release, if_pos h]

/-! ### What a step can do -/

/-- Inverts a step: it adds a call, closes the pool, or moves one call. The slots are conserved. -/
theorem step_cases {s t : SendSlots} {x : SendStep} (h : s.step x = .ok t) :
    (x = .arrive ∧ t = { s with calls := s.calls ++ [.waiting] }) ∨
    (x = .close ∧ t = { s with poolOpen := false }) ∨
    ∃ call p q, x.Moves call p q ∧ s.calls[call]? = some p ∧ t.calls = s.calls.set call q ∧
      t.capacity = s.capacity ∧ t.free + q.slots = s.free + p.slots := by
  cases x with
  | arrive => exact .inl ⟨rfl, (Except.ok.inj h).symm⟩
  | close => exact .inr (.inl ⟨rfl, (Except.ok.inj h).symm⟩)
  | acquire call =>
    simp only [step] at h
    split at h
    · rename_i hg
      simp only [Bool.and_eq_true, decide_eq_true_eq] at hg
      obtain rfl := Except.ok.inj h
      refine .inr (.inr ⟨call, _, _, .acquire call, hg.1, rfl, rfl, ?_⟩)
      show s.free - 1 + 1 = s.free + 0
      omega
    · cases h
  | reject call =>
    simp only [step] at h
    split at h
    · rename_i hg
      obtain rfl := Except.ok.inj h
      exact .inr (.inr ⟨call, _, _, .reject call, hg, rfl, rfl, rfl⟩)
    · cases h
  | submit call =>
    simp only [step] at h
    split at h
    · rename_i hg
      obtain rfl := Except.ok.inj h
      exact .inr (.inr ⟨call, _, _, .submit call, hg, rfl, rfl, rfl⟩)
    · cases h
  | refuse call =>
    simp only [step] at h
    split at h
    · rename_i hg
      obtain rfl := release_eq_ok h
      exact .inr (.inr ⟨call, _, _, .refuse call, hg, rfl, rfl, rfl⟩)
    · cases h
  | finish call =>
    simp only [step] at h
    split at h
    · rename_i awaited hg
      obtain rfl := release_eq_ok h
      exact .inr (.inr ⟨call, _, _, .finish call awaited, hg, rfl, rfl, rfl⟩)
    · cases h
  | abandon call =>
    simp only [step] at h
    split at h
    · rename_i hg
      obtain rfl := Except.ok.inj h
      exact .inr (.inr ⟨call, _, _, .abandon call, hg, rfl, rfl, rfl⟩)
    · cases h

/-- The free slots change by what the step takes and gives back, and by nothing else. -/
theorem step_free {s t : SendSlots} {x : SendStep} (h : s.step x = .ok t) :
    t.free + x.taken = s.free + x.givenBack := by
  obtain ⟨rfl, rfl⟩ | ⟨rfl, rfl⟩ | ⟨call, p, q, hmoves, -, -, -, hfree⟩ := step_cases h
  · rfl
  · rfl
  · have hslots := hmoves.slots_eq
    omega

theorem step_capacity {s t : SendSlots} {x : SendStep} (h : s.step x = .ok t) :
    t.capacity = s.capacity := by
  obtain ⟨rfl, rfl⟩ | ⟨rfl, rfl⟩ | ⟨call, p, q, -, -, -, hcap, -⟩ := step_cases h
  · rfl
  · rfl
  · exact hcap

/-! ### No slot is lost -/

/-- The free slots and the held ones are all there are. -/
def Balanced (s : SendSlots) : Prop := s.free + s.held = s.capacity

theorem balanced_fresh (capacity : Nat) : (fresh capacity).Balanced := rfl

theorem step_balanced {s t : SendSlots} {x : SendStep} (hs : s.Balanced) (h : s.step x = .ok t) :
    t.Balanced := by
  unfold Balanced at hs ⊢
  obtain ⟨rfl, rfl⟩ | ⟨rfl, rfl⟩ | ⟨call, p, q, -, hp, hcalls, hcap, hfree⟩ := step_cases h
  · simpa [held, CallPhase.holdsSlot] using hs
  · exact hs
  · have hheld : t.held + p.slots = s.held + q.slots := by
      simpa only [held, hcalls, move] using held_move hp q
    omega

/-- A call that has a slot leaves room to give it back. -/
theorem Balanced.free_lt {s : SendSlots} (hs : s.Balanced) {call : Nat} {p : CallPhase}
    (hp : s.calls[call]? = some p) (hslot : p.holdsSlot = true) : s.free < s.capacity := by
  have hpos := held_pos hp hslot
  unfold Balanced at hs
  omega

/-- A channel that comes back gives its slot back, whether anybody still waits for it or not. -/
theorem Balanced.step_finish {s : SendSlots} (hs : s.Balanced) {call : Nat} {awaited : Bool}
    (hp : s.calls[call]? = some (.running awaited)) :
    s.step (.finish call) = .ok { s.move call .finished with free := s.free + 1 } := by
  simp only [step, hp]
  exact release_of_lt (hs.free_lt hp rfl)

/-- A call that cannot be submitted gives its slot back. -/
theorem Balanced.step_refuse {s : SendSlots} (hs : s.Balanced) {call : Nat}
    (hp : s.calls[call]? = some .admitted) :
    s.step (.refuse call) = .ok { s.move call .refused with free := s.free + 1 } := by
  simp only [step, if_pos hp]
  exact release_of_lt (hs.free_lt hp rfl)

/-- No step gives back a slot that nobody has. -/
theorem Balanced.step_ne_overReleased {s : SendSlots} (hs : s.Balanced) (x : SendStep) :
    s.step x ≠ .error .overReleased := by
  intro h
  cases x with
  | refuse call =>
    by_cases hp : s.calls[call]? = some .admitted
    · rw [hs.step_refuse hp] at h
      cases h
    · simp [step, hp] at h
  | finish call =>
    by_cases hp : ∃ awaited, s.calls[call]? = some (.running awaited)
    · obtain ⟨awaited, hp⟩ := hp
      rw [hs.step_finish hp] at h
      cases h
    · simp only [step] at h
      split at h
      · rename_i awaited hrun
        exact hp ⟨awaited, hrun⟩
      · cases h
  | arrive => cases h
  | close => cases h
  | acquire call => simp only [step] at h; split at h <;> cases h
  | reject call => simp only [step] at h; split at h <;> cases h
  | submit call => simp only [step] at h; split at h <;> cases h
  | abandon call => simp only [step] at h; split at h <;> cases h

/-! ### Every step of a call is taken once -/

/-- How often a call was turned away, took a slot, was submitted, and gave a slot back. -/
@[ext] structure CallRecord where
  rejected : Nat
  acquired : Nat
  submitted : Nat
  released : Nat

/-- What some steps did for a call. -/
def record (xs : List SendStep) (call : Nat) : CallRecord where
  rejected := xs.count (.reject call)
  acquired := xs.count (.acquire call)
  submitted := xs.count (.submit call)
  released := xs.count (.refuse call) + xs.count (.finish call)

/-- What must have been done for a call that is in this phase; nothing for one that is not there. -/
def recordOf : Option CallPhase → CallRecord
  | none | some .waiting => ⟨0, 0, 0, 0⟩
  | some .rejected => ⟨1, 0, 0, 0⟩
  | some .admitted => ⟨0, 1, 0, 0⟩
  | some .refused => ⟨0, 1, 0, 1⟩
  | some (.running _) => ⟨0, 1, 1, 0⟩
  | some .finished => ⟨0, 1, 1, 1⟩

/-- The steps are the ones that the phases tell of. -/
def Explains (xs : List SendStep) (s : SendSlots) : Prop :=
  ∀ call, record xs call = recordOf s.calls[call]?

/-- A call takes a slot once at most, and has given it back unless it still has it. -/
theorem recordOf_released (p : Option CallPhase) :
    (recordOf p).acquired ≤ 1 ∧
      (recordOf p).released + (if p.any CallPhase.holdsSlot then 1 else 0)
        = (recordOf p).acquired := by
  rcases p with _ | (_ | _ | _ | _ | _ | _) <;> simp [recordOf, CallPhase.holdsSlot]

/-- A call that was turned away is never submitted. -/
theorem recordOf_submitted {p : Option CallPhase} (h : 0 < (recordOf p).rejected) :
    (recordOf p).submitted = 0 := by
  rcases p with _ | (_ | _ | _ | _ | _ | _) <;> first | rfl | cases h

theorem explains_fresh (capacity : Nat) : Explains [] (fresh capacity) := fun _ => rfl

/-- A step that moves one call does nothing for the others. -/
theorem record_append_of_ne {x : SendStep} {call other : Nat} {p q : CallPhase}
    (h : x.Moves call p q) (hne : other ≠ call) (xs : List SendStep) :
    record (xs ++ [x]) other = record xs other := by
  cases h <;> simp [record, hne.symm]

/-- A step that moves a call does for it what tells the two phases apart. -/
theorem record_append_of_moves {x : SendStep} {call : Nat} {p q : CallPhase}
    (h : x.Moves call p q) {xs : List SendStep} (hxs : record xs call = recordOf (some p)) :
    record (xs ++ [x]) call = recordOf (some q) := by
  simp only [record, CallRecord.ext_iff] at hxs
  cases h <;> simp [record, recordOf] at hxs ⊢ <;> omega

theorem step_explains {s t : SendSlots} {x : SendStep} {xs : List SendStep} (hs : Explains xs s)
    (h : s.step x = .ok t) : Explains (xs ++ [x]) t := by
  intro other
  obtain ⟨rfl, rfl⟩ | ⟨rfl, rfl⟩ | ⟨call, p, q, hmoves, hp, hcalls, -, -⟩ := step_cases h
  · -- The new call waits, and a call that waits has the record of one that is not there.
    have hold : record (xs ++ [.arrive]) other = record xs other := by simp [record]
    rw [hold, hs other]
    rcases Nat.lt_trichotomy other s.calls.length with hlt | heq | hgt
    · simp [List.getElem?_append_left hlt]
    · simp [heq, recordOf]
    · simp [List.getElem?_eq_none (Nat.le_of_lt hgt),
        List.getElem?_eq_none (l := s.calls ++ [.waiting]) (i := other) (by simp; omega)]
  · have hold : record (xs ++ [.close]) other = record xs other := by simp [record]
    rw [hold, hs other]
  · by_cases hne : other = call
    · subst hne
      have hlt := (List.getElem?_eq_some_iff.1 hp).1
      rw [hcalls, List.getElem?_set_self hlt]
      exact record_append_of_moves hmoves (by rw [hs other, hp])
    · rw [record_append_of_ne hmoves hne, hs other, hcalls, List.getElem?_set_ne (Ne.symm hne)]

/-! ### Runs -/

theorem steps_cons {s t : SendSlots} {x : SendStep} (h : s.step x = .ok t) (xs : List SendStep) :
    s.steps (x :: xs) = t.steps xs := by
  simp only [steps, h]
  rfl

/-- The first step of a run that comes to an end is taken. -/
theorem steps_cons_eq_ok {s t : SendSlots} {x : SendStep} {xs : List SendStep}
    (h : s.steps (x :: xs) = .ok t) : ∃ u, s.step x = .ok u ∧ u.steps xs = .ok t := by
  cases hx : s.step x with
  | error fault =>
    simp only [steps, hx] at h
    cases h
  | ok u => exact ⟨u, rfl, by rwa [steps_cons hx] at h⟩

/-- What holds at the start and survives every step holds after every run. -/
theorem steps_induction {motive : List SendStep → SendSlots → Prop} {s t : SendSlots}
    {xs : List SendStep} (h : s.steps xs = .ok t) (start : motive [] s)
    (next : ∀ past u x v, motive past u → u.step x = .ok v → motive (past ++ [x]) v) :
    motive xs t := by
  -- The steps taken so far are carried along, since the motive speaks of them.
  suffices hrun : ∀ (ys past : List SendStep) (u : SendSlots),
      motive past u → u.steps ys = .ok t → motive (past ++ ys) t by
    simpa using hrun xs [] s start h
  intro ys
  induction ys with
  | nil =>
    intro past u hu hys
    obtain rfl := Except.ok.inj hys
    simpa using hu
  | cons y ys ih =>
    intro past u hu hys
    obtain ⟨v, hy, hys⟩ := steps_cons_eq_ok hys
    simpa using ih (past ++ [y]) v (next past u y v hu hy) hys

theorem steps_capacity {s t : SendSlots} {xs : List SendStep} (h : s.steps xs = .ok t) :
    t.capacity = s.capacity :=
  steps_induction (motive := fun _ u => u.capacity = s.capacity) h rfl
    fun _ _ _ _ hu hstep => (step_capacity hstep).trans hu

theorem steps_balanced {s t : SendSlots} {xs : List SendStep} (hs : s.Balanced)
    (h : s.steps xs = .ok t) : t.Balanced :=
  steps_induction (motive := fun _ u => u.Balanced) h hs
    fun _ _ _ _ hu hstep => step_balanced hu hstep

theorem steps_fresh_explains {capacity : Nat} {t : SendSlots} {xs : List SendStep}
    (h : (fresh capacity).steps xs = .ok t) : Explains xs t :=
  steps_induction (motive := Explains) h (explains_fresh capacity)
    fun _ _ _ _ hu hstep => step_explains hu hstep

theorem steps_append {s t u : SendSlots} {xs ys : List SendStep} (h : s.steps xs = .ok t)
    (h' : t.steps ys = .ok u) : s.steps (xs ++ ys) = .ok u := by
  induction xs generalizing s with
  | nil =>
    obtain rfl := Except.ok.inj h
    exact h'
  | cons x xs ih =>
    obtain ⟨v, hx, h⟩ := steps_cons_eq_ok h
    rw [List.cons_append, steps_cons hx]
    exact ih h

theorem after_of_step {s t : SendSlots} {x : SendStep} (h : s.step x = .ok t) : s.after x = t := by
  simp only [after, h]

end SendSlots

/-! ### The calls of a dispatcher -/

namespace Dispatcher

open SendSlots

variable {ω : Type}

/-- The slots when one more call has come to a phase. -/
def arrivedIn (s : SendSlots) (phase : CallPhase) : SendSlots :=
  { s with calls := s.calls ++ [phase] }

theorem arrivedIn_calls (s : SendSlots) (phase : CallPhase) :
    (arrivedIn s phase).calls[s.nextCall]? = some phase := by
  simp [arrivedIn, nextCall]

theorem arrivedIn_move (s : SendSlots) (p q : CallPhase) :
    (arrivedIn s p).move s.nextCall q = arrivedIn s q := by
  simp [arrivedIn, nextCall, move]

theorem step_arrive (s : SendSlots) : s.step .arrive = .ok (arrivedIn s .waiting) := rfl

/-- Without a free slot the channel is not called: nothing is done, and the world stays as it is. -/
theorem callChannel_of_full (channel : Channel ω) (message : String) (metadata : Metadata)
    (world : ω) {s : SendSlots} (hfull : s.free = 0) :
    s.steps [.arrive, .reject s.nextCall] = .ok (arrivedIn s .rejected) ∧
      callChannel channel message metadata ⟨world, s⟩
        = ⟨.noSlot, [], ⟨world, arrivedIn s .rejected⟩⟩ := by
  have hreject : (arrivedIn s .waiting).step (.reject s.nextCall)
      = .ok (arrivedIn s .rejected) := by
    rw [step, if_pos (arrivedIn_calls s _), arrivedIn_move]
  refine ⟨by rw [steps_cons (step_arrive s), steps_cons hreject]; rfl, ?_⟩
  have hfree : (arrivedIn s .waiting).free = 0 := hfull
  simp only [callChannel, after_of_step (step_arrive s), hfree, if_true,
    after_of_step hreject]

/-- The slots while the one more call is under way. -/
def submittedTo (s : SendSlots) : SendSlots :=
  { arrivedIn s (.running true) with free := s.free - 1, poolOpen := true }

/-- The slots after the call has ended. -/
def endedAs (s : SendSlots) : Ending Receipt → SendSlots
  | .hanging => { submittedTo s with calls := s.calls ++ [.running false] }
  | _ => { submittedTo s with calls := s.calls ++ [.finished], free := s.free - 1 + 1 }

/-- With a free slot the channel is called, once, and the slots take the steps of a call that is
submitted and comes to its end. -/
theorem callChannel_of_free (channel : Channel ω) (message : String) (metadata : Metadata)
    (world : ω) {s : SendSlots} (hs : s.Balanced) (hfree : 0 < s.free) :
    let run := channel.send message metadata world
    s.steps [.arrive, .acquire s.nextCall, .submit s.nextCall, lastStep s.nextCall run.value]
        = .ok (endedAs s run.value) ∧
      callChannel channel message metadata ⟨world, s⟩
        = ⟨endOf run.value, run.effects, ⟨run.world, endedAs s run.value⟩⟩ := by
  intro run
  have hacquire : (arrivedIn s .waiting).step (.acquire s.nextCall)
      = .ok { arrivedIn s .admitted with free := s.free - 1 } := by
    have hguard : (arrivedIn s .waiting).calls[s.nextCall]? = some .waiting ∧
        0 < (arrivedIn s .waiting).free := ⟨arrivedIn_calls s _, hfree⟩
    rw [step, if_pos (by simpa only [Bool.and_eq_true, decide_eq_true_eq] using hguard),
      arrivedIn_move]
    rfl
  have hsubmit : ({ arrivedIn s .admitted with free := s.free - 1 } : SendSlots).step
      (.submit s.nextCall) = .ok (submittedTo s) := by
    rw [step, if_pos (arrivedIn_calls s _)]
    simp [submittedTo, arrivedIn, nextCall, move]
  have hlast : (submittedTo s).step (lastStep s.nextCall run.value)
      = .ok (endedAs s run.value) := by
    have hcall : (submittedTo s).calls[s.nextCall]? = some (.running true) :=
      arrivedIn_calls s _
    have hroom : s.free - 1 < s.capacity := by
      unfold SendSlots.Balanced at hs
      omega
    cases run.value with
    | hanging =>
      simp only [lastStep, step, if_pos hcall]
      simp [endedAs, submittedTo, arrivedIn, nextCall, move]
    | returned r =>
      simp only [lastStep, step, hcall]
      rw [release_of_lt hroom]
      simp [endedAs, submittedTo, arrivedIn, nextCall, move]
    | failed fault =>
      simp only [lastStep, step, hcall]
      rw [release_of_lt hroom]
      simp [endedAs, submittedTo, arrivedIn, nextCall, move]
  have hne : (arrivedIn s .waiting).free ≠ 0 := Nat.ne_of_gt hfree
  constructor
  · rw [steps_cons (step_arrive s), steps_cons hacquire, steps_cons hsubmit, steps_cons hlast]
    rfl
  · simp only [callChannel, after_of_step (step_arrive s), if_neg hne, after_of_step hacquire,
      after_of_step hsubmit]
    rw [show channel.send message metadata world = run from rfl, after_of_step hlast]

/-! ### The books -/

/-- **The books of the slots**, after every run of steps from the start, in whatever order the calls
took them and whether they ever come to an end:

* No more channels are being called than there are slots, and every slot is either free or held.
* A step changes the free slots by what it takes and gives back: a call that is no longer waited for
  gives nothing back, and closing the pool touches neither the slots nor the calls.
* Each call takes one slot at most and has given it back, once, unless it still has it; and a call
  that has one can always give it back. So no slot is ever given back that nobody had.
* A call that was turned away is never submitted. When a dispatcher reports that there was no slot,
  the channel was not called. -/
theorem steps_fresh_books {capacity : Nat} {xs : List SendStep} {s : SendSlots}
    (h : (fresh capacity).steps xs = .ok s) :
    s.inFlight ≤ capacity ∧
    s.free + s.held = capacity ∧
    (∀ x t, s.step x = .ok t → t.free + x.taken = s.free + x.givenBack) ∧
    (∀ x, s.step x ≠ .error .overReleased) ∧
    (∀ call awaited, s.calls[call]? = some (.running awaited) →
      s.step (.finish call) = .ok { s.move call .finished with free := s.free + 1 }) ∧
    (∀ call, s.calls[call]? = some .admitted →
      s.step (.refuse call) = .ok { s.move call .refused with free := s.free + 1 }) ∧
    s.step .close = .ok { s with poolOpen := false } ∧
    (∀ call, (record xs call).acquired ≤ 1 ∧
      (record xs call).released + (if s.holds call then 1 else 0) = (record xs call).acquired) ∧
    (∀ call, .reject call ∈ xs → .submit call ∉ xs) ∧
    ∀ {ω : Type} (channel : Channel ω) (message : String) (metadata : Metadata) (world : ω),
      let run := callChannel channel message metadata ⟨world, s⟩
      (∃ ys, (fresh capacity).steps (xs ++ ys) = .ok run.world.slots) ∧
        (run.value = .noSlot → run.effects = [] ∧ run.world.world = world ∧
          run.world.slots.calls = s.calls ++ [.rejected]) := by
  have hbalanced : s.Balanced := steps_balanced (balanced_fresh capacity) h
  have hcapacity : s.capacity = capacity := steps_capacity h
  have hexplains : Explains xs s := steps_fresh_explains h
  have hsum : s.free + s.held = capacity := hcapacity ▸ hbalanced
  refine ⟨?_, hsum, fun x t => step_free, hbalanced.step_ne_overReleased,
    fun call awaited => hbalanced.step_finish, fun call => hbalanced.step_refuse, rfl, ?_, ?_, ?_⟩
  · have hle := inFlight_le_held s
    omega
  · intro call
    rw [hexplains call]
    exact recordOf_released _
  · intro call hmem hsubmit
    have hrejected : 0 < (recordOf s.calls[call]?).rejected := by
      rw [← hexplains call]
      exact List.count_pos_iff.2 hmem
    have hnone := recordOf_submitted hrejected
    rw [← hexplains call] at hnone
    exact absurd (List.count_pos_iff.2 hsubmit) (by rw [show xs.count _ = 0 from hnone]; decide)
  · intro ω channel message metadata world
    rcases Nat.eq_zero_or_pos s.free with hfull | hfree
    · obtain ⟨hsteps, hcall⟩ := callChannel_of_full channel message metadata world hfull
      rw [hcall]
      exact ⟨⟨_, steps_append h hsteps⟩, fun _ => ⟨rfl, rfl, rfl⟩⟩
    · obtain ⟨hsteps, hcall⟩ := callChannel_of_free channel message metadata world hbalanced hfree
      rw [hcall]
      refine ⟨⟨_, steps_append h hsteps⟩, fun hnone => ?_⟩
      -- A channel that was called ends the call in some other way.
      cases hvalue : (channel.send message metadata world).value with
      | returned r => simp [hvalue, endOf] at hnone
      | failed fault =>
        simp only [hvalue, endOf] at hnone
        split at hnone <;> cases hnone
      | hanging => simp [hvalue, endOf] at hnone

/-- With one slot: a call hangs and is given up, the pool is closed, and the next call is turned
away, since the slot is still taken. -/
theorem steps_fresh_books_hanging :
    let xs : List SendStep :=
      [.arrive, .acquire 0, .submit 0, .abandon 0, .close, .arrive, .reject 1]
    let s : SendSlots := ⟨1, 0, false, [.running false, .rejected]⟩
    (fresh 1).steps xs = .ok s ∧ s.inFlight ≤ 1 ∧ s.free + s.held = 1 ∧
      (record xs 0).released + (if s.holds 0 then 1 else 0) = (record xs 0).acquired ∧
      .submit 1 ∉ xs := by
  intro xs s
  have hrun : (fresh 1).steps xs = .ok s := rfl
  obtain ⟨hflight, hsum, -, -, -, -, -, hrecord, hrejected, -⟩ := steps_fresh_books hrun
  exact ⟨hrun, hflight, hsum, (hrecord 0).2, hrejected 1 (by decide)⟩

end Dispatcher

end RowAlert
