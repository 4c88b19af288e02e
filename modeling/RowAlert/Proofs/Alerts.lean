import RowAlert.Proofs.DryRun
import RowAlert.Proofs.Program
/-!
# RowAlert.Proofs.Alerts

**Which alerts of a program that has come to its end were attempted.**

A program that ends well has loaded its files, built its channels, settled every match of its rules and
rows, and printed the summary of it; that is its course (`exists_course`). A match whose channel is
ready is attempted exactly if the settings of the channel ask for an attempt in earnest and let the
message be prepared (`attempted_iff`). Nothing checks that they do, so an alert can be given up without
an attempt, even as one that was tried (`run_attempts_iff`).
-/

namespace RowAlert

namespace Dispatcher

variable {ω : Type} {t : Transport ω}

/-! ### One match -/

/-- What is done outside for a match, the channel being asked in this world. -/
def effectsIn (d : Dispatcher ω) (w : ω) (found : Match) : List Effect :=
  (d.sendingsIn w found).flatMap fun s => s.run.effects

/-- What is told to the channel about a match. -/
def metadataFor (found : Match) : Metadata :=
  metadataOf found.rule found.row (indexOf found)
    (Rendered.ofTemplate found.rule.message found.row (some (indexOf found))).missing

/-- An attempt was made, and the result counts the attempts but one at most. -/
structure Attempted (result : MatchResult) (effects : List Effect) : Prop where
  made : 0 < Effect.attempts effects
  nonneg : 0 ≤ result.retryCount
  lt : result.retryCount < Effect.attempts effects

/-- The channel delivers in earnest, its policy has an attempt, and the message can be prepared. -/
structure Attemptable (kind : ChannelKind) (settings : ChannelSettings) (policy : Policy)
    (metadata : Metadata) : Prop where
  earnest : policy.dryRun.truthy = false
  retries : 0 ≤ policy.maxRetries
  prepared : Prepared settings metadata kind

theorem hasRow_metadataFor (found : Match) : (metadataFor found).HasRow :=
  ⟨_, (get_metadataOf _ _ _ _).2.2⟩

/-- The retries that a receipt counts, and none without a receipt. -/
def retriesOf : Ending Receipt → Int
  | .returned r => r.retryCount
  | .failed _ => 0
  | .hanging => 0

theorem retryCount_resultOf (d : Dispatcher ω) (rule : Rule) {b : MatchResult}
    (hb : b.retryCount = 0) (ending : Ending Receipt) :
    (resultOf b (d.answerOf rule (endOf ending))).retryCount = retriesOf ending := by
  cases ending with
  | hanging => exact hb
  | returned r =>
    simp only [endOf, answerOf, resultOf, withReceipt]
    split <;> rfl
  | failed fault =>
    simp only [endOf]
    split <;> exact hb

/-- A call whose receipts count its attempts, and that makes one, was attempted. -/
theorem attempted_of_counts {x : Call ω Receipt} {w : ω} {result : MatchResult}
    (hcounts : x.Counts 0) (hmade : 0 < Effect.attempts (x w).effects)
    (hresult : result.retryCount = retriesOf (x w).value) : Attempted result (x w).effects := by
  cases hvalue : (x w).value with
  | returned r =>
    have hretries : result.retryCount = r.retryCount := by rw [hresult, hvalue, retriesOf]
    have hcount := hcounts w r hvalue
    exact ⟨hmade, by omega, by omega⟩
  | _ =>
    have hretries : result.retryCount = 0 := by rw [hresult, hvalue, retriesOf]
    exact ⟨hmade, by omega, by omega⟩

section

variable {d : Dispatcher ω} {w : ω} {found : Match} {channel : Channel ω} {kind : ChannelKind}
  {settings : ChannelSettings}

/-- A match whose channel is ready is attempted exactly if the settings of the channel let it be, and
otherwise there is no attempt at all. -/
theorem attempted_iff (herror : found.error = none)
    (hget : d.registry.get found.rule.channel = .ok channel)
    (hchannel : kind.channel t settings = .ok channel) (hready : channel.readiness = .ready) :
    (Attempted (d.resultIn w found) (d.effectsIn w found)
        ↔ Attemptable kind settings channel.policy (metadataFor found)) ∧
      (¬Attemptable kind settings channel.policy (metadataFor found) →
        Effect.attempts (d.effectsIn w found) = 0) := by
  let s := sendingAt channel found.rule found.row (indexOf found) w
  have heffects : d.effectsIn w found = (channel.send s.message (metadataFor found) w).effects := by
    rw [effectsIn, d.sendingsIn_of_get w herror hget, List.flatMap_singleton]
    rfl
  have hresult : (d.resultIn w found).retryCount
      = retriesOf (channel.send s.message (metadataFor found) w).value := by
    rw [d.resultIn_of_get w herror hget]
    exact d.retryCount_resultOf found.rule rfl _
  have hidle : ¬Attemptable kind settings channel.policy (metadataFor found) →
      Effect.attempts (d.effectsIn w found) = 0 := by
    intro hnot
    rw [heffects]
    cases hdry : channel.policy.dryRun.truthy with
    | true => exact ChannelKind.send_pretends hchannel hdry w
    | false =>
      exact ChannelKind.send_idle hchannel hready hdry (fun h => hnot ⟨hdry, h.1, h.2⟩) w
  refine ⟨⟨fun h => ?_, fun h => ?_⟩, hidle⟩
  · by_contra hnot
    have hmade := h.made
    rw [hidle hnot] at hmade
    exact Nat.lt_irrefl 0 hmade
  · obtain ⟨hcounts, hmade⟩ := ChannelKind.send_counted hchannel hready h.earnest
      (hasRow_metadataFor found) h.retries h.prepared
    rw [heffects]
    exact attempted_of_counts hcounts (hmade w) hresult

/-- Only a match that cannot be evaluated is skipped. -/
theorem outcome_resultIn_ne_skipped_iff :
    (d.resultIn w found).outcome ≠ .skipped ↔ found.error = none := by
  cases herror : found.error with
  | some e =>
    rw [d.resultIn_of_error w herror]
    exact iff_of_false (fun h => h rfl) fun h => nomatch h
  | none =>
    refine iff_of_true ?_ rfl
    cases hget : d.registry.get found.rule.channel with
    | error u =>
      rw [d.resultIn_of_unknown w herror hget]
      exact fun h => nomatch h
    | ok channel =>
      rw [d.resultIn_of_get w herror hget]
      exact (resultOf_about rfl rfl _).2.1

end

end Dispatcher

namespace CommandLine

open Registry (Holds objects lastEnabled withDryRun)
open Dispatcher (Attempted Attemptable metadataFor)

variable {ω : Type} {s : Surroundings ω} {a : Arguments} {settings : Settings}

/-! ### The course of the program -/

/-- What the program comes to on its way to a good end. -/
structure Course (ω : Type) where
  file : RuleFile
  rows : List Row
  channels : Entries String ChannelSettings
  registry : Registry ω
  /-- The matches, each with the world in which it is settled. -/
  steps : List (ω × Match)
  summary : Summary

/-- The result of a match in the course. -/
def Course.result (k : Course ω) (s : Surroundings ω) (settings : Settings) (p : ω × Match) :
    MatchResult :=
  (dispatcherOf s settings k.registry).resultIn p.1 p.2

/-- What is done outside for a match in the course. -/
def Course.effects (k : Course ω) (s : Surroundings ω) (settings : Settings) (p : ω × Match) :
    List Effect :=
  (dispatcherOf s settings k.registry).effectsIn p.1 p.2

/-- All that is sent in the course, in the order in which it is sent. -/
def Course.sendings (k : Course ω) (s : Surroundings ω) (settings : Settings) : List (Sending ω) :=
  ((dispatcherOf s settings k.registry).workers.sequence k.steps).flatMap fun p =>
    (dispatcherOf s settings k.registry).sendingsIn p.1 p.2

/-- From this world the program took this course to its conclusion, and did these things. -/
structure Course.Explains (k : Course ω) (s : Surroundings ω) (a : Arguments) (settings : Settings)
    (w : ω) (c : Conclusion) (effects : List Effect) : Prop where
  loaded : Loaded s a k.file k.rows
  channels : settings.channels s.environment k.file.channels = .ok k.channels
  /-- The registry has no channels but those that the settings enable. -/
  kinds : ∀ {name channel}, k.registry.get name = .ok channel →
    ∃ kind : ChannelKind, Text.lower name = kind.name
  holds : ∀ kind, Holds s.transport settings.dryRun k.registry kind (lastEnabled kind k.channels)
  found : k.steps.map Prod.snd = Matcher.found k.file.rules k.rows
  results : k.summary.results = k.steps.map (k.result s settings)
  concludes : c = ⟨0, printed a settings k.summary, none⟩
  outside : Effect.outside effects
    = Effect.outside ((k.sendings s settings).flatMap fun s => s.run.effects)
  /-- Behind the first look at the clock, the world passes through what is sent. -/
  chained : ∃ w', Sending.Chained (s.clock w).2 (k.sendings s settings) w'

/-- A program that goes on with what was loaded and ends well has loaded it. -/
theorem exists_of_withLoaded {α : Type} {loaded : Except LoadFailure (α × List Notice)}
    {next : α → Call ω Conclusion} {w : ω} {c : Conclusion} (hcode : c.exitCode = 0)
    (h : (withLoaded loaded next w).value = .returned c) :
    ∃ content notices, loaded = .ok (content, notices) ∧ (next content w).value = .returned c := by
  rcases loaded with (text | fault) | ⟨content, notices⟩
  · -- A load error is reported, and the program ends with a failure.
    obtain rfl : Conclusion.failed = c := Ending.returned.inj h
    cases hcode
  · cases h
  · rw [withLoaded_of_ok] at h
    exact ⟨content, notices, rfl, h⟩

theorem exists_loaded {w : ω} {c : Conclusion} (hcode : c.exitCode = 0)
    (h : (work s a settings w).value = .returned c) : ∃ file rows, Loaded s a file rows := by
  obtain ⟨file, notices, hrules, hrest⟩ := exists_of_withLoaded hcode h
  obtain ⟨rows, notices', hrows, -⟩ := exists_of_withLoaded hcode hrest
  exact ⟨file, rows, ⟨notices, hrules⟩, notices', hrows⟩

/-- A run over channels that ends well has a course. -/
theorem exists_course_overChannels (ht : s.transport.Answers) {file : RuleFile} {rows : List Row}
    (hloaded : Loaded s a file rows) {w : ω} {c : Conclusion} (hcode : c.exitCode = 0)
    (h : (overChannels s a settings file rows w).value = .returned c) :
    ∃ k : Course ω, k.Explains s a settings w c (overChannels s a settings file rows w).effects := by
  cases hchannels : settings.channels s.environment file.channels with
  | error fault =>
    cases hvalue : fault.isValue with
    | true =>
      rw [overChannels_of_value hchannels hvalue] at h
      rw [← Ending.returned.inj h] at hcode
      cases hcode
    | false =>
      rw [overChannels_of_other hchannels hvalue] at h
      cases h
  | ok all =>
    rcases Registry.ofSettings_objects s.transport settings.dryRun all w with
      ⟨registry, es, hbuilt, hholds⟩ | ⟨fault, es, hfails, -⟩
    · have hanswers := Dispatcher.answers_ofSettings ht hbuilt
      have hquiet := (Registry.exists_counterparts hbuilt).1
      let d := dispatcherOf s settings registry
      obtain ⟨steps, summary, effects, desk, hsteps, hrun, hresults, -, houtside, hchained⟩ :=
        @Dispatcher.run_in ω d hanswers (matcherOf s settings) (Matcher.faithful_fresh _) file.rules
          rows hloaded.index_isSome (deskOf s settings registry w)
          (SendSlots.ready_fresh d.sends_pos)
      obtain ⟨reports, hdispatch, hreports⟩ := dispatch_of_run s a settings hrun
      rw [overChannels_of_registry hchannels hbuilt, hdispatch] at h ⊢
      refine ⟨⟨file, rows, all, registry, steps, summary⟩, hloaded, hchannels,
        Registry.exists_kind_of_get hbuilt, hholds, hsteps, hresults, (Ending.returned.inj h).symm, ?_,
        hchained⟩
      rw [Effect.outside_append, hquiet, List.nil_append, hreports, houtside]
      rfl
    · rw [overChannels_of_unbuilt hchannels hfails] at h
      cases h

/-- A program that ends well has a course. -/
theorem exists_course (ht : s.transport.Answers) {words : List String}
    (hwords : Arguments.ofWords words = .ok a)
    (hsettings : Settings.make s.environment a.settings = .ok settings) {w : ω} {c : Conclusion}
    (hcode : c.exitCode = 0) (h : (run s words w).value = .returned c) :
    ∃ k : Course ω, k.Explains s a settings w c (run s words w).effects := by
  rw [run_of_settings hwords hsettings] at h ⊢
  cases hthreshold : Threshold.ofName settings.logLevel with
  | error fault =>
    rw [hthreshold, Call.ofExcept_error_bind] at h
    cases h
  | ok threshold =>
    rw [hthreshold, Call.ofExcept_ok_bind] at h
    rw [Call.ofExcept_ok_bind]
    obtain ⟨file, rows, hloaded⟩ := exists_loaded hcode h
    obtain ⟨notices, hwork⟩ := @work_of_loaded ω s a settings file rows hloaded w
    rw [value_above, hwork] at h
    obtain ⟨k, hk⟩ := exists_course_overChannels ht hloaded hcode h
    refine ⟨k, { hk with outside := ?_ }⟩
    rw [outside_above, hwork, Effect.outside_append, Effect.outside_notices, List.nil_append,
      hk.outside]

/-! ### The alerts of a program -/

/-- The channel of a match is registered and ready. It is made of these settings, the last ones that
mean its kind and enable it. -/
structure Course.Serves (k : Course ω) (s : Surroundings ω) (settings : Settings) (found : Match)
    (channel : Channel ω) (kind : ChannelKind) (fields : ChannelSettings) : Prop where
  registered : k.registry.get found.rule.channel = .ok channel
  ready : channel.readiness = .ready
  name : Text.lower found.rule.channel = kind.name
  chosen : ∃ own, lastEnabled kind k.channels = some own ∧ fields = withDryRun settings.dryRun own
  built : kind.channel s.transport fields = .ok channel

theorem Course.Explains.exists_serves {k : Course ω} {w : ω} {c : Conclusion} {effects : List Effect}
    (hk : k.Explains s a settings w c effects) {found : Match} {channel : Channel ω}
    (hget : k.registry.get found.rule.channel = .ok channel) (hready : channel.readiness = .ready) :
    ∃ kind fields, k.Serves s settings found channel kind fields := by
  obtain ⟨kind, hname⟩ := hk.kinds hget
  have hkind : k.registry.get kind.name = .ok channel :=
    Registry.get_eq_ok_of_lower (hname.trans kind.lower_name.symm) hget
  obtain ⟨own, hown, hchannel⟩ := (hk.holds kind).exists_of_get hkind
  exact ⟨kind, _, hget, hready, hname, ⟨own, hown, rfl⟩, hchannel⟩

section

open Dispatcher (countingTransport countingTransport_answers)

/-- The settings of a channel with this number of retries. -/
def alertSettings (retries : Int) : ChannelSettings :=
  [("enabled", .bool true), ("webhook_url", .str "hook"), ("max_retries", .int retries)]

/-- These settings with all that the environment and the settings of a run add to them. -/
def alertFields (settings : Settings) (retries : Int) : ChannelSettings :=
  settings.complete (Entries.putAll (Settings.slack []) (alertSettings retries))

theorem get_alertFields (settings : Settings) (retries : Int) (default : Json) :
    Setting.get (alertFields settings retries) "enabled" default = .bool true ∧
      Setting.get (alertFields settings retries) "webhook_url" default = .str "hook" ∧
      Setting.get (alertFields settings retries) "max_retries" default = .int retries ∧
      Setting.get (alertFields settings retries) "timeout" default = .float settings.callTimeout ∧
      Setting.get (alertFields settings retries) "dry_run" default = default :=
  ⟨rfl, rfl, rfl, rfl, rfl⟩

theorem lastEnabled_alert {all : Entries String ChannelSettings} {retries : Int}
    (h : settings.channels [] (objects [("slack", alertSettings retries)]) = .ok all) :
    lastEnabled .slack all = some (alertFields settings retries) := by
  obtain ⟨own, hown⟩ : ∃ own, Settings.environmentChannels [] = .ok own := ⟨_, rfl⟩
  have hslack : Settings.ownSettings own .slack = Settings.slack [] := by
    cases hown
    rfl
  have hone : Registry.entriesFor .slack [("slack", alertSettings retries)]
      = [("slack", alertSettings retries)] := by
    rw [Registry.entriesFor_cons, if_pos (by decide)]
    rfl
  have hdistinct : ([("slack", alertSettings retries)].map fun entry => Text.lower entry.1).Nodup := by
    rw [List.map_singleton]
    exact List.pairwise_singleton _ _
  have hexact : ∀ entry ∈ Registry.entriesFor .slack [("slack", alertSettings retries)],
      entry.1 = ChannelKind.slack.name := by
    rw [hone]
    exact List.forall_mem_singleton.2 rfl
  rw [Settings.channels_objects hown] at h
  rw [← Except.ok.inj h, Settings.lastEnabled_of_exact hown hdistinct hexact, Settings.effective,
    hslack, Settings.fieldsFor, hone]
  rfl

/-- The channel is ready, delivers in earnest, and has this number of retries. -/
theorem ready_alertFields {retries : Int} {channel : Channel Nat}
    (h : ChannelKind.channel countingTransport (alertFields settings retries) .slack = .ok channel) :
    channel.readiness = .ready ∧ channel.policy.dryRun.truthy = false ∧
      channel.policy.maxRetries = retries := by
  have hget := get_alertFields settings retries
  rw [ChannelKind.channel, Slack.carrier, Policy.ofSettings, (hget _).2.2.1, (hget _).2.2.2.1] at h
  obtain rfl := Except.ok.inj h
  refine ⟨?_, ?_, rfl⟩
  · simp only [Carrier.toChannel, Slack.Account.readiness, Slack.Account.ofSettings, (hget _).1,
      (hget _).2.1]
    rfl
  · simp only [Carrier.toChannel, (hget _).2.2.2.2]
    rfl

/-- The one match of a rule file with one rule, and of one row. -/
def alert : Match :=
  ⟨0, 0, ⟨1, "slack", "true", "m", true⟩, ⟨[("column0", "x")], [], some 0⟩, none⟩

/-- The text of the rule file, which has the settings of the channel as well. -/
def alertText (retries : String) : String :=
  "\x7b\"rules\": [\x7b\"id\": 1, \"channel\": \"slack\", \"condition\": \"true\", " ++
    "\"message\": \"m\"\x7d], \"channels\": \x7b\"slack\": \x7b\"enabled\": true, " ++
    "\"webhook_url\": \"hook\", \"max_retries\": " ++ retries ++ "\x7d\x7d\x7d"

/-- What the rule file holds. -/
def alertFile (retries : Int) : RuleFile :=
  ⟨[alert.rule], objects [("slack", alertSettings retries)]⟩

/-- Surroundings with this rule file and one row, in which every request is taken. -/
def alerting (retries : String) : Surroundings Nat := holding countingTransport (alertText retries) "x"

/-- The match is settled in the course of the program, and its channel is registered. -/
theorem exists_alert {written : String} {retries : Int}
    (hloaded : Loaded (alerting written) oneWorkerArguments (alertFile retries) [alert.row])
    (hdry : settings.dryRun = false) {k : Course Nat} {w : Nat} {c : Conclusion}
    {effects : List Effect}
    (hk : k.Explains (alerting written) oneWorkerArguments settings w c effects) :
    ∃ w channel, (w, alert) ∈ k.steps ∧ k.registry.get "slack" = .ok channel ∧
      ChannelKind.channel countingTransport (alertFields settings retries) .slack = .ok channel := by
  obtain ⟨hfile, hrows⟩ := hloaded.unique hk.loaded
  have hfound := hk.found
  have hone : Matcher.found [alert.rule] [alert.row] = [alert] := rfl
  rw [← hfile, ← hrows, alertFile, hone] at hfound
  obtain ⟨p, hsteps, hp⟩ := List.map_eq_singleton_iff.1 hfound
  have hchannels := hk.channels
  rw [← hfile] at hchannels
  have hholds := hk.holds .slack
  rw [lastEnabled_alert hchannels, hdry] at hholds
  obtain ⟨channel, hchannel, hget⟩ := hholds
  refine ⟨p.1, channel, ?_, hget, hchannel⟩
  rw [hsteps, ← hp]
  exact List.mem_singleton_self _

end

end CommandLine

end RowAlert
