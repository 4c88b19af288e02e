import RowAlert.CommandLine.Run
import RowAlert.Proofs.Building
import RowAlert.Proofs.Loading
import RowAlert.Proofs.Overrides
import RowAlert.Proofs.Settling
/-!
# RowAlert.Proofs.Program

**How the program ends once its files are loaded.**

A dispatcher comes to the end of every run, whatever its channels do (`exists_run`). So the program
ends well as soon as its channels are built (`overChannels_of_buildable`), and what else can become of
it is decided by their settings: a value with which they cannot be put together is reported, and every
other fault is not caught (`run_exits_iff`).
-/

namespace RowAlert

namespace Workers

variable {ω α β : Type}

theorem returns_fill {work : α → Call ω β} {tasks : List α}
    (hwork : ∀ task ∈ tasks, (work task).Returns) (is : List Nat) (slots : List (Option β)) :
    (fill work tasks is slots).Returns := by
  induction is generalizing slots with
  | nil => exact Call.returns_pure slots
  | cons i is ih =>
    rw [fill]
    split
    · rename_i task htask
      exact (hwork task (List.mem_of_getElem? htask)).bind fun _ => ih _
    · exact ih slots

theorem returns_gather {work : α → Call ω β} {tasks : List α}
    (hwork : ∀ task ∈ tasks, (work task).Returns) (w : Workers) : (w.gather work tasks).Returns :=
  (returns_fill hwork _ _).bind fun _ => Call.returns_pure _

end Workers

namespace Dispatcher

variable {ω : Type}

theorem returns_settle (d : Dispatcher ω) {found : Match} (hrow : found.row.index.isSome) :
    (d.settle found).Returns := by
  obtain ⟨i, hi⟩ := Option.isSome_iff_exists.1 hrow
  unfold settle
  split
  · exact Call.returns_pure _
  · simp only [dispatch, hi]
    exact Call.returns_ofSession _

/-- A run comes to its end, whatever the channels do. -/
theorem exists_run (d : Dispatcher ω) {m : Matcher} (hm : m.Faithful) (rules : List Rule)
    {rows : List Row} (hrows : ∀ row ∈ rows, row.index.isSome) (desk : Desk ω) :
    ∃ summary effects desk', d.run m rules rows desk = ⟨.returned summary, effects, desk'⟩ := by
  obtain ⟨m', hquiet, -⟩ := @Matcher.run_quiet (Desk ω) m hm rules rows
  have hreturns : (d.settleAll (Matcher.found rules rows)).Returns :=
    Workers.returns_gather
      (fun found hmem => d.returns_settle (hrows _ (Matcher.row_mem_of_found hmem))) d.workers
  obtain ⟨results, hresults⟩ := hreturns ⟨(d.clock desk.world).2, desk.slots⟩
  obtain ⟨reports, hrun, -⟩ := d.run_eq_of_settled hquiet (by rw [← hresults]; rfl)
  exact ⟨_, reports, _, hrun⟩

end Dispatcher

namespace CommandLine

variable {ω : Type} (s : Surroundings ω) (a : Arguments) (settings : Settings)

/-! ### A registry -/

/-- The dispatcher of the program, over some channels. -/
def dispatcherOf (registry : Registry ω) : Dispatcher ω :=
  .make registry settings.maxWorkers settings.maxSends (.float settings.callTimeout) s.schedule
    s.clock

/-- The matcher of the program. -/
def matcherOf : Matcher := .fresh (.ofCount settings.maxWorkers s.schedule)

/-- The desk at which the dispatcher of the program begins. -/
def deskOf (registry : Registry ω) (w : ω) : Desk ω := (dispatcherOf s settings registry).desk w

/-- With a registry, the program ends with the summary of a run over it. -/
theorem dispatch_of_run {registry : Registry ω} {rules : List Rule} {rows : List Row} {w : ω}
    {summary : Summary} {effects : List Effect} {desk : Desk ω}
    (hrun : (dispatcherOf s settings registry).run (matcherOf s settings) rules rows
      (deskOf s settings registry w) = ⟨.returned summary, effects, desk⟩) :
    ∃ reports, dispatch s a settings registry rules rows w
        = ⟨.returned ⟨0, printed a settings summary, none⟩, reports, desk.world⟩ ∧
      Effect.outside reports = Effect.outside effects := by
  let d := dispatcherOf s settings registry
  have hdispatch : dispatch s a settings registry rules rows = do
      Call.ofSession (.notify d.introduction)
      let summary ← runOnce d (matcherOf s settings) rules rows
      return ⟨0, printed a settings summary, none⟩ := rfl
  have hintroduction : Call.ofSession (.notify d.introduction : Session ω Unit) w
      = ⟨.returned (), [.notice d.introduction], w⟩ := rfl
  -- Closing touches the slots, and the world is handed back without them.
  have honce : runOnce d (matcherOf s settings) rules rows w
      = ⟨.returned summary, effects ++ [], desk.world⟩ := by
    rw [deskOf] at hrun
    unfold runOnce
    rw [Call.bind_of_returned hrun]
    rfl
  refine ⟨[.notice d.introduction] ++ (effects ++ [] ++ []), ?_, ?_⟩
  · rw [hdispatch, Call.bind_of_returned hintroduction, Call.bind_of_returned honce]
    rfl
  · rw [List.append_nil, List.append_nil, Effect.outside_append]
    rfl

/-! ### The stages before -/

/-- The files are loaded. -/
structure Loaded (file : RuleFile) (rows : List Row) : Prop where
  rules : ∃ notices, loadRules s a = .ok (file, notices)
  rows : ∃ notices, loadRows s a = .ok (rows, notices)

variable {s a settings} {file : RuleFile} {rows : List Row}

theorem Loaded.index_isSome (h : Loaded s a file rows) : ∀ row ∈ rows, row.index.isSome := by
  obtain ⟨notices, hrows⟩ := h.rows
  unfold loadRows at hrows
  split at hrows
  · cases hrows
  · exact Table.index_of_load (eq_ok_of_mapError hrows)

/-- Files are loaded in one way only. -/
theorem Loaded.unique {file' : RuleFile} {rows' : List Row} (h : Loaded s a file rows)
    (h' : Loaded s a file' rows') : file = file' ∧ rows = rows' := by
  obtain ⟨⟨notices, hrules⟩, second, hrows⟩ := h
  obtain ⟨⟨notices', hrules'⟩, second', hrows'⟩ := h'
  rw [hrules] at hrules'
  rw [hrows] at hrows'
  exact ⟨(Prod.mk.inj (Except.ok.inj hrules')).1, (Prod.mk.inj (Except.ok.inj hrows')).1⟩

/-- What was loaded is reported, and nothing more comes of it. -/
theorem withLoaded_of_ok {α : Type} (content : α) (notices : List Notice)
    (next : α → Call ω Conclusion) (w : ω) :
    withLoaded (.ok (content, notices)) next w = ⟨(next content w).value,
      notices.map .notice ++ (next content w).effects, (next content w).world⟩ :=
  Call.bind_of_returned rfl _

/-- The run over the channels of a rule file. -/
def overChannels (s : Surroundings ω) (a : Arguments) (settings : Settings) (file : RuleFile)
    (rows : List Row) : Call ω Conclusion :=
  withChannels s settings file fun registry => dispatch s a settings registry file.rules rows

theorem work_of_loaded (h : Loaded s a file rows) (w : ω) :
    ∃ notices : List Notice, work s a settings w
      = ⟨(overChannels s a settings file rows w).value,
          notices.map .notice ++ (overChannels s a settings file rows w).effects,
          (overChannels s a settings file rows w).world⟩ := by
  obtain ⟨⟨first, hrules⟩, second, hrows⟩ := h
  refine ⟨first ++ second, ?_⟩
  unfold work
  rw [hrules, hrows, withLoaded_of_ok, withLoaded_of_ok, List.map_append, List.append_assoc]
  rfl

/-! ### The channels -/

open Registry (objects AllBuildable)

section

variable {all : Entries String ChannelSettings} {fault : Fault} {w : ω} {es : List Effect}

/-- A failure with a value is reported. -/
theorem overChannels_of_value (h : settings.channels s.environment file.channels = .error fault)
    (hvalue : fault.isValue = true) :
    (overChannels s a settings file rows w).value = .returned .failed := by
  simp only [overChannels, withChannels, h, hvalue, if_true]
  rfl

/-- Every other failure is left as it is. -/
theorem overChannels_of_other (h : settings.channels s.environment file.channels = .error fault)
    (hvalue : fault.isValue = false) :
    (overChannels s a settings file rows w).value = .failed fault := by
  simp only [overChannels, withChannels, h, hvalue]
  rfl

theorem overChannels_of_unbuilt (h : settings.channels s.environment file.channels = .ok all)
    (hfails : Registry.ofSettings s.transport (objects all) settings.dryRun w
      = ⟨.failed fault, es, w⟩) :
    overChannels s a settings file rows w = ⟨.failed fault, es, w⟩ := by
  simp only [overChannels, withChannels, h]
  exact Call.bind_of_failed hfails _

theorem overChannels_of_registry {registry : Registry ω}
    (h : settings.channels s.environment file.channels = .ok all)
    (hbuilt : Registry.ofSettings s.transport (objects all) settings.dryRun w
      = ⟨.returned registry, es, w⟩) :
    overChannels s a settings file rows w
      = ⟨(dispatch s a settings registry file.rules rows w).value,
          es ++ (dispatch s a settings registry file.rules rows w).effects,
          (dispatch s a settings registry file.rules rows w).world⟩ := by
  simp only [overChannels, withChannels, h]
  exact Call.bind_of_returned hbuilt _

end

/-- With channels that can be built, the program ends with the summary of a run. -/
theorem overChannels_of_buildable (hloaded : Loaded s a file rows)
    {all : Entries String ChannelSettings}
    (h : settings.channels s.environment file.channels = .ok all) (hall : AllBuildable all) (w : ω) :
    ∃ summary, (overChannels s a settings file rows w).value
      = .returned ⟨0, printed a settings summary, none⟩ := by
  rcases Registry.ofSettings_objects s.transport settings.dryRun all w with
    ⟨registry, es, hbuilt, -⟩ | ⟨fault, es, -, hfault⟩
  · obtain ⟨summary, effects, desk, hrun⟩ := (dispatcherOf s settings registry).exists_run
      (Matcher.faithful_fresh _) file.rules hloaded.index_isSome (deskOf s settings registry w)
    obtain ⟨reports, hdispatch, -⟩ := dispatch_of_run s a settings hrun
    exact ⟨summary, by rw [overChannels_of_registry h hbuilt, hdispatch]⟩
  · exact absurd ⟨fault, hfault⟩ (Registry.allBuildable_iff.1 hall)

/-- If a channel cannot be built, the program does not come to its end. -/
theorem overChannels_of_not_buildable {all : Entries String ChannelSettings}
    (h : settings.channels s.environment file.channels = .ok all) (hall : ¬AllBuildable all) (w : ω) :
    ∃ fault, (overChannels s a settings file rows w).value = .failed fault := by
  rcases Registry.ofSettings_objects s.transport settings.dryRun all w with
    ⟨registry, es, hbuilt, -⟩ | ⟨fault, es, hfails, -⟩
  · have hreturns := Registry.ofSettings_returns_iff s.transport settings.dryRun all w
    exact absurd (hreturns.1 ⟨registry, by rw [hbuilt]⟩) hall
  · exact ⟨fault, by rw [overChannels_of_unbuilt h hfails]⟩

/-! ### The program -/

/-- The call returns a conclusion with this exit code. -/
def Exits (x : Call ω Conclusion) (w : ω) (code : Nat) : Prop :=
  ∃ c, (x w).value = .returned c ∧ c.exitCode = code

theorem exits_iff_of_returned {x : Call ω Conclusion} {w : ω} {c : Conclusion}
    (h : (x w).value = .returned c) (code : Nat) : Exits x w code ↔ c.exitCode = code := by
  constructor
  · rintro ⟨c', hc', hcode⟩
    rw [h] at hc'
    rw [Ending.returned.inj hc']
    exact hcode
  · exact fun hcode => ⟨c, h, hcode⟩

theorem not_exits_of_failed {x : Call ω Conclusion} {w : ω} {fault : Fault}
    (h : (x w).value = .failed fault) (code : Nat) : ¬Exits x w code := by
  rintro ⟨c, hc, -⟩
  rw [h] at hc
  cases hc

/-! ### The threshold -/

/-- What is shown of a call has no part in how it ends. -/
theorem value_above (threshold : Nat) (x : Call ω Conclusion) (w : ω) :
    (above threshold x w).value = (x w).value := rfl

/-- Everything that reaches the world outside is shown. -/
theorem outside_above (threshold : Nat) (x : Call ω Conclusion) (w : ω) :
    Effect.outside (above threshold x w).effects = Effect.outside (x w).effects := by
  simp only [above, Effect.outside, List.filter_filter]
  refine List.filter_congr fun e _ => ?_
  cases e <;> rfl

variable {words : List String}

theorem run_of_settings (hwords : Arguments.ofWords words = .ok a)
    (hsettings : Settings.make s.environment a.settings = .ok settings) :
    run s words = Call.ofExcept (Threshold.ofName settings.logLevel) >>= fun threshold =>
      above threshold (work s a settings) := by
  simp only [run, hwords, hsettings]

/-- With a threshold, the program ends as the run over its channels does. -/
theorem value_run (hwords : Arguments.ofWords words = .ok a)
    (hsettings : Settings.make s.environment a.settings = .ok settings)
    (hloaded : Loaded s a file rows) {threshold : Nat}
    (hthreshold : Threshold.ofName settings.logLevel = .ok threshold) (w : ω) :
    (run s words w).value = (overChannels s a settings file rows w).value := by
  obtain ⟨notices, hwork⟩ := @work_of_loaded ω s a settings file rows hloaded w
  rw [run_of_settings hwords hsettings, hthreshold, Call.ofExcept_ok_bind, value_above, hwork]

/-! ### The end of the program -/

/-- The settings of the run name a threshold. -/
def Levelled (settings : Settings) : Prop :=
  ∃ threshold, Threshold.ofName settings.logLevel = .ok threshold

/-- The settings of the channels are put together, and every channel that they enable can be built. -/
def Channelled (s : Surroundings ω) (settings : Settings) (file : RuleFile) : Prop :=
  ∃ all, settings.channels s.environment file.channels = .ok all ∧ AllBuildable all

/-- The settings of the channels cannot be put together, which is put down to a value. -/
def Rejected (s : Surroundings ω) (settings : Settings) (file : RuleFile) : Prop :=
  ∃ fault, settings.channels s.environment file.channels = .error fault ∧ fault.isValue = true

theorem channelled_iff {all : Entries String ChannelSettings}
    (h : settings.channels s.environment file.channels = .ok all) :
    Channelled s settings file ↔ AllBuildable all := by
  constructor
  · rintro ⟨all', hall', hbuildable⟩
    rwa [Except.ok.inj (h.symm.trans hall')]
  · exact fun hbuildable => ⟨all, h, hbuildable⟩

theorem rejected_iff {fault : Fault}
    (h : settings.channels s.environment file.channels = .error fault) :
    Rejected s settings file ↔ fault.isValue = true := by
  constructor
  · rintro ⟨fault', hfault', hvalue⟩
    rwa [Except.error.inj (h.symm.trans hfault')]
  · exact fun hvalue => ⟨fault, h, hvalue⟩

theorem not_channelled_of_error {fault : Fault}
    (h : settings.channels s.environment file.channels = .error fault) :
    ¬Channelled s settings file := by
  rintro ⟨all, hall, -⟩
  rw [h] at hall
  cases hall

theorem not_rejected_of_ok {all : Entries String ChannelSettings}
    (h : settings.channels s.environment file.channels = .ok all) : ¬Rejected s settings file := by
  rintro ⟨fault, hfault, -⟩
  rw [h] at hfault
  cases hfault

theorem Channelled.not_rejected (h : Channelled s settings file) : ¬Rejected s settings file := by
  obtain ⟨all, hall, -⟩ := h
  exact not_rejected_of_ok hall

/-- How a run over channels ends: well, with their rejection, or with a fault that is not caught. -/
inductive Concludes (s : Surroundings ω) (settings : Settings) (file : RuleFile) :
    Ending Conclusion → Prop
  | well (h : Channelled s settings file) {c : Conclusion} (hcode : c.exitCode = 0) :
      Concludes s settings file (.returned c)
  | rejected (h : Rejected s settings file) : Concludes s settings file (.returned .failed)
  | uncaught (hchannels : ¬Channelled s settings file) (hvalue : ¬Rejected s settings file)
      (fault : Fault) : Concludes s settings file (.failed fault)

theorem overChannels_concludes (hloaded : Loaded s a file rows) (w : ω) :
    Concludes s settings file (overChannels s a settings file rows w).value := by
  cases h : settings.channels s.environment file.channels with
  | error fault =>
    by_cases hvalue : fault.isValue = true
    · rw [overChannels_of_value h hvalue]
      exact .rejected ((rejected_iff h).2 hvalue)
    · rw [overChannels_of_other h (Bool.eq_false_iff.2 hvalue)]
      exact .uncaught (not_channelled_of_error h) (mt (rejected_iff h).1 hvalue) fault
  | ok all =>
    by_cases hall : AllBuildable all
    · obtain ⟨summary, hvalue⟩ := overChannels_of_buildable hloaded h hall w
      rw [hvalue]
      exact .well ((channelled_iff h).2 hall) rfl
    · obtain ⟨fault, hfault⟩ := overChannels_of_not_buildable h hall w
      rw [hfault]
      exact .uncaught (mt (channelled_iff h).1 hall) (not_rejected_of_ok h) fault

/-- A program whose files are loaded ends well exactly if its settings name a threshold and every
channel that they enable can be built, and it ends with a failure exactly if the settings of channels
are rejected for a value. In every other case a fault is not caught. -/
theorem run_exits_iff (hwords : Arguments.ofWords words = .ok a)
    (hsettings : Settings.make s.environment a.settings = .ok settings)
    (hloaded : Loaded s a file rows) (w : ω) :
    (Exits (run s words) w 0 ↔ Levelled settings ∧ Channelled s settings file) ∧
      (Exits (run s words) w 1 ↔ Levelled settings ∧ Rejected s settings file) ∧
      (¬Exits (run s words) w 0 → ¬Exits (run s words) w 1 →
        ∃ fault, (run s words w).value = .failed fault) := by
  cases hthreshold : Threshold.ofName settings.logLevel with
  | error fault =>
    have hvalue : (run s words w).value = .failed fault := by
      rw [run_of_settings hwords hsettings, hthreshold, Call.ofExcept_error_bind]
      rfl
    have hnot : ¬Levelled settings := by
      rintro ⟨threshold, h⟩
      rw [hthreshold] at h
      cases h
    exact ⟨iff_of_false (not_exits_of_failed hvalue 0) fun h => hnot h.1,
      iff_of_false (not_exits_of_failed hvalue 1) fun h => hnot h.1, fun _ _ => ⟨fault, hvalue⟩⟩
  | ok threshold =>
    have hlevel : Levelled settings := ⟨threshold, hthreshold⟩
    have hconcludes := @overChannels_concludes ω s a settings file rows hloaded w
    rw [← value_run hwords hsettings hloaded hthreshold w] at hconcludes
    generalize hvalue : (run s words w).value = ending at hconcludes
    cases hconcludes with
    | well h hcode =>
      rw [exits_iff_of_returned hvalue, exits_iff_of_returned hvalue, hcode]
      exact ⟨iff_of_true rfl ⟨hlevel, h⟩, iff_of_false (by decide) fun h' => h.not_rejected h'.2,
        fun hnot => absurd rfl hnot⟩
    | rejected h =>
      rw [exits_iff_of_returned hvalue, exits_iff_of_returned hvalue]
      exact ⟨iff_of_false (by decide) fun h' => h'.2.not_rejected h, iff_of_true rfl ⟨hlevel, h⟩,
        fun _ hnot => absurd rfl hnot⟩
    | uncaught hchannels hrejected fault =>
      exact ⟨iff_of_false (not_exits_of_failed hvalue 0) fun h => hchannels h.2,
        iff_of_false (not_exits_of_failed hvalue 1) fun h => hrejected h.2, fun _ _ => ⟨fault, rfl⟩⟩

/-- Whether a call returns with an exit code is found out by running it. -/
instance (x : Call ω Conclusion) (w : ω) (code : Nat) : Decidable (Exits x w code) :=
  match h : (x w).value with
  | .returned c => decidable_of_iff (c.exitCode = code) (exits_iff_of_returned h code).symm
  | .failed _ => isFalse (not_exits_of_failed h code)
  | .hanging => isFalse fun ⟨_, hc, _⟩ => nomatch h.symm.trans hc

/-- Surroundings with a file of rules and one of data, in which no variable is set. -/
def holding (transport : Transport ω) (rules data : String) : Surroundings ω where
  transport := transport
  clock := fun w => (.ofBool false, w)
  schedule := .inOrder
  files := fun path =>
    .ok ((if path = "rules" then rules else data).toList.map fun c => .ofNat c.toNat)
  environment := []

/-- A command line for one worker. -/
def oneWorker : List String := ["rules", "data", "--workers", "1"]

/-- What it asks for. -/
def oneWorkerArguments : Arguments :=
  ⟨some "rules", some "data", false, some ",", false, some (some 1), none, none, false, none⟩

theorem ofWords_oneWorker : Arguments.ofWords oneWorker = .ok oneWorkerArguments := rfl

theorem exists_make_oneWorker :
    ∃ settings, Settings.make [] oneWorkerArguments.settings = .ok settings ∧
      settings.dryRun = false ∧ settings.maxWorkers = 1 ∧ settings.logLevel = "INFO" := by
  have hmade : (Settings.make [] oneWorkerArguments.settings).toOption.map (fun settings =>
      (settings.dryRun, settings.maxWorkers, settings.logLevel)) = some (false, 1, "INFO") := by
    decide +kernel
  cases h : Settings.make [] oneWorkerArguments.settings with
  | error fault =>
    rw [h] at hmade
    cases hmade
  | ok settings =>
    rw [h] at hmade
    obtain ⟨hdry, hrest⟩ := Prod.mk.inj (Option.some.inj hmade)
    obtain ⟨hworkers, hlevel⟩ := Prod.mk.inj hrest
    exact ⟨settings, rfl, hdry, hworkers, hlevel⟩

theorem exists_loadRules {s : Surroundings ω} {file : RuleFile}
    (h : (loadRules s a).toOption.map Prod.fst = some file) :
    ∃ notices, loadRules s a = .ok (file, notices) := by
  cases hrules : loadRules s a with
  | error fault =>
    rw [hrules] at h
    cases h
  | ok loaded =>
    rw [hrules] at h
    obtain rfl := Option.some.inj h
    exact ⟨loaded.2, rfl⟩

section

open Settings (silence)
open Registry (isEnabled)

/-- Without rules and channels the program ends well. -/
theorem run_exits_iff_idle :
    ∃ settings, Arguments.ofWords oneWorker = .ok oneWorkerArguments ∧
      Settings.make [] oneWorkerArguments.settings = .ok settings ∧
      Loaded (holding silence "[]" "") oneWorkerArguments ⟨[], []⟩ [] ∧
      Exits (run (holding silence "[]" "") oneWorker) () 0 := by
  obtain ⟨settings, hsettings, -, -, hlevel⟩ := exists_make_oneWorker
  have hloaded : Loaded (holding silence "[]" "") oneWorkerArguments ⟨[], []⟩ [] :=
    ⟨⟨_, rfl⟩, ⟨_, rfl⟩⟩
  -- No channel is enabled, so none can fail to be built.
  have hchannels : ∃ all, settings.channels [] [] = .ok all ∧
      all.all (fun entry => !isEnabled entry.2) = true := ⟨_, rfl, rfl⟩
  obtain ⟨all, hall, hdisabled⟩ := hchannels
  refine ⟨settings, rfl, hsettings, hloaded, ?_⟩
  refine (run_exits_iff ofWords_oneWorker hsettings hloaded ()).1.2 ⟨?_, all, hall, ?_⟩
  · rw [Levelled, hlevel]
    exact ⟨_, rfl⟩
  · intro name fields kind hmem _ henabled
    have hnot := List.all_eq_true.1 hdisabled _ hmem
    rw [henabled] at hnot
    cases hnot

/-- A rule file that asks for a number of retries which is none. -/
def unreadable : String :=
  "\x7b\"rules\": [], \"channels\": \x7b\"slack\": \x7b" ++
    "\"enabled\": true, \"max_retries\": \"many\"\x7d\x7d\x7d"

/-- Not every setting of a channel that cannot be used is reported. -/
theorem not_exits_of_unreadable :
    ¬∀ (s : Surroundings Unit) (words : List String) (a : Arguments) (settings : Settings)
      (file : RuleFile) (rows : List Row), Arguments.ofWords words = .ok a →
      Settings.make s.environment a.settings = .ok settings → Loaded s a file rows →
      Exits (run s words) () 0 ∨ Exits (run s words) () 1 := by
  intro h
  obtain ⟨settings, hsettings, -⟩ := exists_make_oneWorker
  have hrules := exists_loadRules (by decide +kernel :
    (loadRules (holding silence unreadable "") oneWorkerArguments).toOption.map Prod.fst
      = some ⟨[], Registry.objects
          [("slack", [("enabled", .bool true), ("max_retries", .str "many")])]⟩)
  have hexits : ¬(Exits (run (holding silence unreadable "") oneWorker) () 0 ∨
      Exits (run (holding silence unreadable "") oneWorker) () 1) := by
    decide +kernel
  exact hexits (h _ oneWorker _ settings _ [] ofWords_oneWorker hsettings ⟨hrules, ⟨_, rfl⟩⟩)

end

end CommandLine

end RowAlert
