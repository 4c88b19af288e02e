import RowAlert.Proofs.Except
import RowAlert.Settings
/-!
# RowAlert.Proofs.Settings

**Which settings are within their bounds.**

A setting that an argument gives has passed its check, and every default is within its bounds; a
variable is only read. So settings are within their bounds exactly if every variable that was
consulted holds a value that is (`make_bounded_iff`). One lemma says this of a single setting
(`from?_bounded_iff`), and the settings are made of what `from?` gives (`fields_of_make`).
-/

namespace RowAlert

namespace Validation

theorem atLeast_eq_ok {bound i j : Int} (h : atLeast bound i = .ok j) : bound ≤ j := by
  unfold atLeast at h
  split at h
  · rename_i hle
    rwa [← Except.ok.inj h]
  · cases h

theorem positive_eq_ok {x y : Number} (h : positive x = .ok y) : Number.zero.less y = true := by
  unfold positive at h
  split at h
  · rename_i hless
    rwa [← Except.ok.inj h]
  · cases h

end Validation

namespace Settings

/-- Every setting that has a bound is within it. -/
structure Bounded (s : Settings) : Prop where
  maxWorkers : 1 ≤ s.maxWorkers
  maxSends : 1 ≤ s.maxSends
  callTimeout : Number.zero.less s.callTimeout = true
  channelMaxRetries : 0 ≤ s.channelMaxRetries

/-- If no argument gives the setting and the variable is set, its text reads as a value within the
bound, as far as it can be read. -/
def VariableBounded {α : Type} (arguments : List (String × Json)) (env : Environment)
    (name variableName : String) (read : String → Except Fault α) (bound : α → Prop) : Prop :=
  Entries.get? arguments name = none → ∀ text, Entries.get? env variableName = some text →
    ∀ a, read text = .ok a → bound a

/-- Every variable that is consulted holds a value within the bound of its setting. -/
structure VariablesBounded (env : Environment) (arguments : List (String × Json)) : Prop where
  maxWorkers : VariableBounded arguments env "max_workers" "NOTIFIER_MAX_WORKERS"
    Setting.integerOfText (1 ≤ ·)
  maxSends : VariableBounded arguments env "max_concurrent_sends" "NOTIFIER_MAX_CONCURRENT_SENDS"
    Setting.integerOfText (1 ≤ ·)
  callTimeout : VariableBounded arguments env "call_timeout_seconds" "NOTIFIER_CALL_TIMEOUT"
    Setting.numberOfText (Number.zero.less · = true)
  channelMaxRetries : VariableBounded arguments env "channel_max_retries"
    "NOTIFIER_CHANNEL_MAX_RETRIES" Setting.integerOfText (0 ≤ ·)

/-! ### A single setting -/

theorem integerFrom_eq_ok {least i : Int} {value : Json} (h : integerFrom least value = .ok i) :
    least ≤ i := by
  obtain ⟨j, -, hj⟩ := exists_of_bind_eq_ok h
  exact Validation.atLeast_eq_ok hj

theorem positiveFrom_eq_ok {x : Number} {value : Json} (h : positiveFrom value = .ok x) :
    Number.zero.less x = true := by
  obtain ⟨y, -, hy⟩ := exists_of_bind_eq_ok h
  exact Validation.positive_eq_ok hy

theorem numberOfText_eq_ok {text : String} {x : Number} (h : Number.ofText? text = some x) :
    Setting.numberOfText text = .ok x := by
  rw [Setting.numberOfText, h]

section

variable {α : Type} {arguments : List (String × Json)} {env : Environment}
  {name variableName default : String} {check : Json → Except Problem α}
  {read : String → Except Fault α} {bound : α → Prop} {a : α}

/-- A setting comes from an argument that passed its check, from a variable, or from its default. -/
theorem from?_cases
    (h : from? arguments name check (read (env.text variableName default)) = .ok (.ok a)) :
    (∃ value, Entries.get? arguments name = some value ∧ check value = .ok a) ∨
      (Entries.get? arguments name = none ∧
        ((∃ text, Entries.get? env variableName = some text ∧ read text = .ok a) ∨
          (Entries.get? env variableName = none ∧ read default = .ok a))) := by
  unfold from? at h
  split at h
  · rename_i value hvalue
    refine .inl ⟨value, hvalue, ?_⟩
    cases hcheck : check value with
    | error problem => rw [hcheck] at h; cases h
    | ok b => rw [hcheck] at h; cases h; rfl
  · rename_i hnone
    refine .inr ⟨hnone, ?_⟩
    have hread : read (env.text variableName default) = .ok a := by
      cases hread : read (env.text variableName default) with
      | error fault => rw [hread] at h; cases h
      | ok b => rw [hread] at h; cases h; rfl
    unfold Environment.text at hread
    cases hvariable : Entries.get? env variableName with
    | none => rw [hvariable] at hread; exact .inr ⟨rfl, hread⟩
    | some text => rw [hvariable] at hread; exact .inl ⟨text, rfl, hread⟩

/-- With a check that enforces the bound and a default within it, only a variable can break it. -/
theorem from?_bounded_iff (hcheck : ∀ value a, check value = .ok a → bound a)
    (hdefault : ∀ a, read default = .ok a → bound a)
    (h : from? arguments name check (read (env.text variableName default)) = .ok (.ok a)) :
    bound a ↔ VariableBounded arguments env name variableName read bound := by
  rcases from?_cases h with ⟨value, hvalue, ha⟩ | ⟨hnone, ⟨text, htext, ha⟩ | ⟨hunset, ha⟩⟩
  · refine iff_of_true (hcheck value a ha) fun hnone => ?_
    rw [hvalue] at hnone
    cases hnone
  · constructor
    · intro hbound _ text' htext' a' ha'
      obtain rfl := Option.some.inj (htext.symm.trans htext')
      rwa [← Except.ok.inj (ha.symm.trans ha')]
    · intro hbounded
      exact hbounded hnone text htext a ha
  · refine iff_of_true (hdefault a ha) fun _ text htext => ?_
    rw [hunset] at htext
    cases htext

end

/-! ### All settings -/

/-- The settings are what was found for each of them. -/
theorem fields_of_collect {dryRun : Except FieldProblem Bool}
    {maxWorkers maxSends : Except FieldProblem Int} {callTimeout : Except FieldProblem Number}
    {channelMaxRetries : Except FieldProblem Int} {logLevel : Except FieldProblem String}
    {s : Settings}
    (h : collect dryRun maxWorkers maxSends callTimeout channelMaxRetries logLevel = .ok s) :
    dryRun = .ok s.dryRun ∧ maxWorkers = .ok s.maxWorkers ∧ maxSends = .ok s.maxSends ∧
      callTimeout = .ok s.callTimeout ∧ channelMaxRetries = .ok s.channelMaxRetries ∧
      logLevel = .ok s.logLevel := by
  unfold collect at h
  split at h
  · obtain rfl := Except.ok.inj h
    exact ⟨rfl, rfl, rfl, rfl, rfl, rfl⟩
  · cases h

theorem fields_of_make {env : Environment} {arguments : List (String × Json)} {s : Settings}
    (h : make env arguments = .ok s) :
    from? arguments "max_workers" (integerFrom 1) (integerIn env "NOTIFIER_MAX_WORKERS" "4")
        = .ok (.ok s.maxWorkers) ∧
      from? arguments "max_concurrent_sends" (integerFrom 1)
        (integerIn env "NOTIFIER_MAX_CONCURRENT_SENDS" "4") = .ok (.ok s.maxSends) ∧
      from? arguments "call_timeout_seconds" positiveFrom (numberIn env "NOTIFIER_CALL_TIMEOUT" "10")
        = .ok (.ok s.callTimeout) ∧
      from? arguments "channel_max_retries" (integerFrom 0)
        (integerIn env "NOTIFIER_CHANNEL_MAX_RETRIES" "0") = .ok (.ok s.channelMaxRetries) := by
  unfold make at h
  dsimp only at h
  split at h
  · cases h
  · rename_i dryRun workers sends timeout retries level hfound
    obtain ⟨_, -, hfound⟩ := exists_of_bind_eq_ok hfound
    obtain ⟨_, hworkers, hfound⟩ := exists_of_bind_eq_ok hfound
    obtain ⟨_, hsends, hfound⟩ := exists_of_bind_eq_ok hfound
    obtain ⟨_, htimeout, hfound⟩ := exists_of_bind_eq_ok hfound
    obtain ⟨_, hretries, hfound⟩ := exists_of_bind_eq_ok hfound
    obtain ⟨_, -, hfound⟩ := exists_of_bind_eq_ok hfound
    cases hfound
    obtain ⟨-, rfl, rfl, rfl, rfl, -⟩ := fields_of_collect h
    exact ⟨hworkers, hsends, htimeout, hretries⟩

/-- Settings are within their bounds exactly if every variable they were read from is. -/
theorem make_bounded_iff {env : Environment} {arguments : List (String × Json)} {s : Settings}
    (h : make env arguments = .ok s) : s.Bounded ↔ VariablesBounded env arguments := by
  obtain ⟨hworkers, hsends, htimeout, hretries⟩ := fields_of_make h
  have hfour : ∀ i, Setting.integerOfText "4" = .ok i → 1 ≤ i := by
    intro i hi
    obtain rfl : 4 = i := Except.ok.inj hi
    decide
  have hten : ∀ x, Setting.numberOfText "10" = .ok x → Number.zero.less x = true := by
    intro x hx
    have hread : Number.ofText? "10" = some (.ofRatio false 10 1) := by decide +kernel
    rw [← Except.ok.inj ((numberOfText_eq_ok hread).symm.trans hx)]
    decide +kernel
  have hzero : ∀ i, Setting.integerOfText "0" = .ok i → 0 ≤ i := by
    intro i hi
    obtain rfl : 0 = i := Except.ok.inj hi
    decide
  have hworkers' := from?_bounded_iff (fun _ _ => integerFrom_eq_ok) hfour hworkers
  have hsends' := from?_bounded_iff (fun _ _ => integerFrom_eq_ok) hfour hsends
  have htimeout' := from?_bounded_iff (fun _ _ => positiveFrom_eq_ok) hten htimeout
  have hretries' := from?_bounded_iff (fun _ _ => integerFrom_eq_ok) hzero hretries
  constructor
  · rintro ⟨ha, hb, hc, hd⟩
    exact ⟨hworkers'.1 ha, hsends'.1 hb, htimeout'.1 hc, hretries'.1 hd⟩
  · rintro ⟨ha, hb, hc, hd⟩
    exact ⟨hworkers'.2 ha, hsends'.2 hb, htimeout'.2 hc, hretries'.2 hd⟩

/-- An argument in bounds, and a variable that is not, but is not consulted either. -/
theorem make_bounded_iff_mixed :
    ∃ s, make [("NOTIFIER_MAX_WORKERS", "0"), ("NOTIFIER_CALL_TIMEOUT", "2.5")]
        [("max_workers", .str "8")] = .ok s ∧
      (s.Bounded ↔ VariablesBounded [("NOTIFIER_MAX_WORKERS", "0"), ("NOTIFIER_CALL_TIMEOUT", "2.5")]
        [("max_workers", .str "8")]) := by
  have hread : Number.ofText? "2.5" = some (.ofRatio false 5 2) := by decide +kernel
  have hmake : make [("NOTIFIER_MAX_WORKERS", "0"), ("NOTIFIER_CALL_TIMEOUT", "2.5")]
      [("max_workers", .str "8")] = .ok ⟨false, 8, 4, .ofRatio false 5 2, 0, "INFO"⟩ := by
    have htimeout : numberIn [("NOTIFIER_MAX_WORKERS", "0"), ("NOTIFIER_CALL_TIMEOUT", "2.5")]
        "NOTIFIER_CALL_TIMEOUT" "10" = .ok (.ofRatio false 5 2) := numberOfText_eq_ok hread
    rw [make, htimeout]
    rfl
  exact ⟨_, hmake, make_bounded_iff hmake⟩

/-- A variable may hold no worker at all, which no argument may. -/
theorem not_bounded_of_variable :
    ¬∀ (env : Environment) (arguments : List (String × Json)) (s : Settings),
      make env arguments = .ok s → s.Bounded := by
  intro h
  have hread : Number.ofText? "10" = some (.ofRatio false 10 1) := by decide +kernel
  have hmake : make [("NOTIFIER_MAX_WORKERS", "0")] []
      = .ok ⟨false, 0, 4, .ofRatio false 10 1, 0, "INFO"⟩ := by
    have htimeout : numberIn [("NOTIFIER_MAX_WORKERS", "0")] "NOTIFIER_CALL_TIMEOUT" "10"
        = .ok (.ofRatio false 10 1) := numberOfText_eq_ok hread
    rw [make, htimeout]
    rfl
  have hbounded := (h _ _ _ hmake).maxWorkers
  exact absurd hbounded (by decide)

end Settings

end RowAlert
