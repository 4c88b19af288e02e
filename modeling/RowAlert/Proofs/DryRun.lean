import Mathlib.Data.List.Forall2
import RowAlert.Proofs.Channels
import RowAlert.Proofs.Settling
/-!
# RowAlert.Proofs.DryRun

**A dry run is a silent and faithful preview.**

The same settings make a registry for a dry run and one for a run that delivers, or neither
(`ofSettings_alike`): the two have channels under the same names, each made of the same settings, and
those for the dry run only pretend (`Counterparts`). Whether channels pretend has no part in what is
matched, in which order, or in what is to be said to whom, so the results differ in nothing but what
became of the messages (`dry_run_previews`).
-/

namespace RowAlert

/-! ### Calls that end alike -/

/-- Both calls return, values that are related in this way, or both fail with the same fault. -/
inductive Ending.Alike {α β : Type} (R : α → β → Prop) : Ending α → Ending β → Prop
  | returned {a : α} {b : β} (h : R a b) : Alike R (.returned a) (.returned b)
  | failed (fault : Fault) : Alike R (.failed fault) (.failed fault)

namespace Call

variable {ω α β γ δ : Type} {R : α → β → Prop} {S : γ → δ → Prop}

/-- Wherever they begin, both calls only report, and they end alike. -/
def Alike (R : α → β → Prop) (x : Call ω α) (y : Call ω β) : Prop :=
  ∀ w, ∃ ending ending' es es', x w = ⟨ending, es, w⟩ ∧ y w = ⟨ending', es', w⟩ ∧
    Effect.outside es = [] ∧ Effect.outside es' = [] ∧ Ending.Alike R ending ending'

theorem alike_pure {a : α} {b : β} (h : R a b) :
    Alike R (pure a : Call ω α) (pure b : Call ω β) :=
  fun _ => ⟨_, _, [], [], rfl, rfl, rfl, rfl, .returned h⟩

theorem alike_ofSession {x : Session ω α} {y : Session ω β} {a : α} {b : β} (hx : x.Quiet a)
    (hy : y.Quiet b) (h : R a b) : Alike R (ofSession x) (ofSession y) :=
  fun w => ⟨_, _, _, _, ofSession_of_quiet hx w, ofSession_of_quiet hy w, hx.outside w, hy.outside w,
    .returned h⟩

theorem alike_error (fault : Fault) :
    Alike R (ofExcept (.error fault) : Call ω α) (ofExcept (.error fault) : Call ω β) :=
  fun _ => ⟨_, _, [], [], rfl, rfl, rfl, rfl, .failed fault⟩

theorem Alike.bind {x : Call ω α} {y : Call ω β} {f : α → Call ω γ} {g : β → Call ω δ}
    (h : Alike R x y) (hf : ∀ a b, R a b → Alike S (f a) (g b)) : Alike S (x >>= f) (y >>= g) := by
  intro w
  obtain ⟨ending, ending', es, es', hx, hy, hes, hes', hend⟩ := h w
  cases hend with
  | @returned a b hab =>
    obtain ⟨next, next', fs, fs', hfx, hgy, hfs, hfs', hnext⟩ := hf a b hab w
    refine ⟨next, next', es ++ fs, es' ++ fs', ?_, ?_, ?_, ?_, hnext⟩
    · rw [bind_of_returned hx, hfx]
    · rw [bind_of_returned hy, hgy]
    · rw [Effect.outside_append, hes, hfs, List.nil_append]
    · rw [Effect.outside_append, hes', hfs', List.nil_append]
  | failed fault =>
    exact ⟨_, _, es, es', bind_of_failed hx f, bind_of_failed hy g, hes, hes', .failed fault⟩

/-- Two reports before do not matter. -/
theorem Alike.behind_notices {x : Call ω α} {y : Call ω β} (h : Alike R x y) (n n' : Notice) :
    Alike R (do ofSession (.notify n); x) (do ofSession (.notify n'); y) :=
  Alike.bind (alike_ofSession (R := fun _ _ => True) (.notify n) (.notify n') trivial) fun _ _ _ => h

end Call

/-! ### Channels that pretend -/

/-- The channel only reports, and its receipts tell of success without a retry. -/
def Channel.Pretends {ω : Type} (channel : Channel ω) : Prop :=
  ∀ message metadata w, ∃ r effects, channel.send message metadata w = ⟨.returned r, effects, w⟩ ∧
    r.success = true ∧ r.retryCount = 0 ∧ Effect.outside effects = []

/-- The policy in a dry run. -/
def Policy.pretending (p : Policy) : Policy := { p with dryRun := .bool true }

namespace Carrier

variable {ω π : Type} (c : Carrier ω π)

/-- The carrier in a dry run. -/
def pretending : Carrier ω π := { c with policy := c.policy.pretending }

theorem pretending_pretends : c.pretending.toChannel.Pretends := by
  intro message metadata w
  have hsend : c.pretending.send message metadata = do
      c.pretending.say .info s!"[DRY RUN] Would send to {c.name}: {message}"
      return c.pretending.delivered metadata 0 dryRunResponse := rfl
  exact ⟨_, _, congrFun hsend w, rfl, rfl, rfl⟩

end Carrier

open Registry (withDryRun)

theorem Setting.get_withDryRun (settings : ChannelSettings) {name : String} (h : "dry_run" ≠ name)
    (default : Json) :
    get (withDryRun true settings) name default = get settings name default :=
  get_put_of_ne settings h _ default

theorem Policy.ofSettings_withDryRun (settings : ChannelSettings) :
    ofSettings (withDryRun true settings) = (ofSettings settings).map pretending := by
  have hdry : Setting.get (withDryRun true settings) "dry_run" (.bool false) = .bool true := by
    rw [Setting.get, withDryRun, if_pos rfl, Entries.get?_put, if_pos rfl]
    rfl
  unfold ofSettings
  simp (disch := decide) only [Setting.get_withDryRun, hdry]
  cases Setting.integer (Setting.get settings "max_retries" (.int 0)) with
  | error fault => rfl
  | ok n => cases Setting.number (Setting.get settings "timeout" (.int 10)) <;> rfl

theorem Email.Account.ofSettings_withDryRun (settings : ChannelSettings) :
    ofSettings (withDryRun true settings) = ofSettings settings := by
  simp (disch := decide) only [ofSettings, Setting.get_withDryRun]

theorem Slack.Account.ofSettings_withDryRun (settings : ChannelSettings) :
    ofSettings (withDryRun true settings) = ofSettings settings := by
  simp (disch := decide) only [ofSettings, Setting.get_withDryRun]

theorem Webhook.Endpoint.ofSettings_withDryRun (settings : ChannelSettings) :
    ofSettings (withDryRun true settings) = ofSettings settings := by
  simp (disch := decide) only [ofSettings, Setting.get_withDryRun]

section

variable {ω : Type} (t : Transport ω) (settings : ChannelSettings)

theorem Email.carrier_withDryRun :
    carrier t (withDryRun true settings) = (carrier t settings).map Carrier.pretending := by
  rw [carrier, carrier, Policy.ofSettings_withDryRun, Account.ofSettings_withDryRun]
  cases Policy.ofSettings settings <;> rfl

theorem Slack.carrier_withDryRun :
    carrier t (withDryRun true settings) = (carrier t settings).map Carrier.pretending := by
  rw [carrier, carrier, Policy.ofSettings_withDryRun, Account.ofSettings_withDryRun]
  cases Policy.ofSettings settings <;> rfl

theorem Webhook.carrier_withDryRun :
    carrier t (withDryRun true settings) = (carrier t settings).map Carrier.pretending := by
  rw [carrier, carrier, Policy.ofSettings_withDryRun, Endpoint.ofSettings_withDryRun]
  cases Policy.ofSettings settings with
  | error fault => rfl
  | ok policy => cases Endpoint.ofSettings settings <;> rfl

/-- Asked for a dry run, settings make a channel that pretends, or fail as they do otherwise. -/
theorem ChannelKind.channel_withDryRun (kind : ChannelKind) :
    (∃ fault, kind.channel t (withDryRun true settings) = .error fault ∧
        kind.channel t settings = .error fault) ∨
      ∃ dry real, kind.channel t (withDryRun true settings) = .ok dry ∧
        kind.channel t settings = .ok real ∧ dry.Pretends := by
  have hmap : ∀ {π : Type} (x : Except Fault (Carrier ω π)),
      (∃ fault, (x.map Carrier.pretending).map Carrier.toChannel = .error fault ∧
          x.map Carrier.toChannel = .error fault) ∨
        ∃ dry real, (x.map Carrier.pretending).map Carrier.toChannel = .ok dry ∧
          x.map Carrier.toChannel = .ok real ∧ dry.Pretends := by
    intro π x
    cases x with
    | error fault => exact .inl ⟨fault, rfl, rfl⟩
    | ok c => exact .inr ⟨_, _, rfl, rfl, c.pretending_pretends⟩
  cases kind with
  | email =>
    rw [channel, channel, Email.carrier_withDryRun]
    exact hmap _
  | slack =>
    rw [channel, channel, Slack.carrier_withDryRun]
    exact hmap _
  | webhook =>
    rw [channel, channel, Webhook.carrier_withDryRun]
    exact hmap _

end

/-! ### Registries -/

namespace Registry

variable {ω : Type} {t : Transport ω}

/-- What two registries have under a name: nothing, or a channel that pretends and one that is made of
settings, of the kind that the name means. -/
inductive Counterpart (t : Transport ω) (dry real : Registry ω) (name : String) : Prop
  | unknown (u : UnknownChannel) (hdry : dry.get name = .error u) (hreal : real.get name = .error u)
  | known {kind : ChannelKind} {settings : ChannelSettings} {pretender channel : Channel ω}
      (hdry : dry.get name = .ok pretender) (hreal : real.get name = .ok channel)
      (hname : Text.lower name = kind.name) (hpretends : pretender.Pretends)
      (hchannel : kind.channel t settings = .ok channel)

/-- The one registry is that of a dry run, and the other one has the same channels in earnest. -/
def Counterparts (t : Transport ω) (dry real : Registry ω) : Prop :=
  ∀ name, Counterpart t dry real name

theorem counterparts_empty : Counterparts t empty empty := fun name => .unknown ⟨name⟩ rfl rfl

theorem Counterparts.insert {dry real : Registry ω} (h : Counterparts t dry real) {name : String}
    {kind : ChannelKind} {settings : ChannelSettings} {pretender channel : Channel ω}
    (hname : Text.lower name = kind.name) (hpretends : pretender.Pretends)
    (hchannel : kind.channel t settings = .ok channel) :
    Counterparts t (dry.insert name pretender) (real.insert name channel) := by
  intro key
  by_cases hkey : Text.lower name = Text.lower key
  · exact .known (by rw [get_insert, if_pos hkey]) (by rw [get_insert, if_pos hkey])
      (hkey.symm.trans hname) hpretends hchannel
  · cases h key with
    | unknown u hdry hreal =>
      exact .unknown u (by rw [get_insert, if_neg hkey, hdry])
        (by rw [get_insert, if_neg hkey, hreal])
    | known hdry hreal hname' hpretends' hchannel' =>
      exact .known (by rw [get_insert, if_neg hkey, hdry]) (by rw [get_insert, if_neg hkey, hreal])
        hname' hpretends' hchannel'

theorem register_quiet (r : Registry ω) (name : String) (channel : Channel ω) :
    (r.register name channel).Quiet (r.insert name channel) :=
  (Session.Quiet.notify _).bind (.pure _)

theorem addConfigured_alike {dry real : Registry ω} (h : Counterparts t dry real) (name : String)
    (settings : Json) :
    Call.Alike (Counterparts t) (addConfigured t true dry name settings)
      (addConfigured t false real name settings) := by
  unfold addConfigured
  cases hname : ChannelKind.ofName? name with
  | none => exact (Call.alike_pure h).behind_notices _ _
  | some kind =>
    cases settings with
    | obj fields =>
      dsimp only
      split
      · rcases kind.channel_withDryRun t fields with ⟨fault, hdry, hreal⟩ | ⟨dry', real', hdry, hreal, hp⟩
        · rw [hdry, withDryRun, if_neg (by decide), hreal, Call.ofExcept_error_bind,
            Call.ofExcept_error_bind]
          exact Call.alike_error fault
        · rw [hdry, withDryRun, if_neg (by decide), hreal, Call.ofExcept_ok_bind,
            Call.ofExcept_ok_bind]
          exact Call.alike_ofSession (dry.register_quiet name dry') (real.register_quiet name real')
            (h.insert (ChannelKind.ofName?_eq_some_iff.1 hname) hp hreal)
      · exact (Call.alike_pure h).behind_notices _ _
    | _ => exact Call.alike_error _

theorem addAll_alike (configured : List (String × Json)) {dry real : Registry ω}
    (h : Counterparts t dry real) :
    Call.Alike (Counterparts t) (addAll t true dry configured) (addAll t false real configured) := by
  induction configured generalizing dry real with
  | nil => exact Call.alike_pure h
  | cons entry configured ih =>
    exact (addConfigured_alike h entry.1 entry.2).bind fun dry real hnext => ih hnext

/-- Settings make counterparts, or fail in a dry run as they do otherwise. -/
theorem ofSettings_alike (t : Transport ω) (configured : List (String × Json)) :
    Call.Alike (Counterparts t) (ofSettings t configured true) (ofSettings t configured false) := by
  refine (addAll_alike configured counterparts_empty).bind fun dry real h => ?_
  exact (Call.alike_pure h).behind_notices _ _

/-- A registry that settings make is one of two counterparts, and making it is only reported. -/
theorem exists_counterparts {configured : List (String × Json)} {dryRun : Bool} {r : Registry ω}
    {es : List Effect} {w w' : ω} (h : ofSettings t configured dryRun w = ⟨.returned r, es, w'⟩) :
    Effect.outside es = [] ∧ ∃ dry real, Counterparts t dry real ∧ (r = dry ∨ r = real) := by
  obtain ⟨ending, ending', fs, fs', hdry, hreal, hfs, hfs', hend⟩ := ofSettings_alike t configured w
  cases dryRun with
  | true =>
    rw [hdry] at h
    obtain ⟨rfl, rfl, -⟩ := Run.mk.inj h
    cases hend with
    | returned hcounterparts => exact ⟨hfs, _, _, hcounterparts, .inl rfl⟩
  | false =>
    rw [hreal] at h
    obtain ⟨rfl, rfl, -⟩ := Run.mk.inj h
    cases hend with
    | returned hcounterparts => exact ⟨hfs', _, _, hcounterparts, .inr rfl⟩

theorem Counterpart.exists_kind {dry real : Registry ω} {name : String} {channel : Channel ω}
    (h : Counterpart t dry real name)
    (hget : dry.get name = .ok channel ∨ real.get name = .ok channel) :
    ∃ kind : ChannelKind, Text.lower name = kind.name := by
  cases h with
  | known hdry hreal hname => exact ⟨_, hname⟩
  | unknown u hdry hreal =>
    rw [hdry, hreal] at hget
    rcases hget with h | h <;> cases h

/-- Every channel of a registry that settings make has the name of a kind. -/
theorem exists_kind_of_get {configured : List (String × Json)} {dryRun : Bool} {r : Registry ω}
    {es : List Effect} {w w' : ω} (h : ofSettings t configured dryRun w = ⟨.returned r, es, w'⟩)
    {name : String} {channel : Channel ω} (hget : r.get name = .ok channel) :
    ∃ kind : ChannelKind, Text.lower name = kind.name := by
  obtain ⟨-, dry, real, hcounterparts, rfl | rfl⟩ := exists_counterparts h
  · exact (hcounterparts name).exists_kind (.inl hget)
  · exact (hcounterparts name).exists_kind (.inr hget)

end Registry

/-! ### Results -/

namespace Dispatcher

variable {ω : Type} {t : Transport ω}

/-- The result of a dry run tells what a run in earnest reports, but for what became of the message.
Nothing is different about a match that cannot be evaluated or whose channel is unknown. -/
structure Previews (dry : Registry ω) (r r' : MatchResult) : Prop where
  ruleId : r.ruleId = r'.ruleId
  rowIndex : r.rowIndex = r'.rowIndex
  channel : r.channel = r'.channel
  message : r.message = r'.message
  skipped : r.outcome = .skipped ∨ r'.outcome = .skipped → r = r'
  unsupported : r.errorName = some UnknownChannel.reportName ∨
    r'.errorName = some UnknownChannel.reportName → r = r'
  sent : r.outcome ≠ .skipped → (∀ name, r.channel = some name → dry.has name = true) →
    r.outcome = .sent ∧ r.retryCount = 0

theorem FaultKind.name_ne_reportName (kind : FaultKind) :
    kind.name ≠ UnknownChannel.reportName := by
  cases kind <;> decide

theorem Fault.name_ne_reportName (fault : Fault) : fault.name ≠ UnknownChannel.reportName := by
  cases fault with
  | delivery channel reason retries =>
    exact (by decide : Fault.deliveryName ≠ UnknownChannel.reportName)
  | failure kind text => exact FaultKind.name_ne_reportName kind

/-- The result of a call is about what its blank is about. It is no result of a match that was skipped,
and none of an unknown channel. -/
theorem resultOf_about {b : MatchResult} (hb : b.outcome = .failed) (herror : b.errorName = none)
    (answer : Except Fault Receipt) :
    let r := resultOf b answer
    (r.ruleId = b.ruleId ∧ r.rowIndex = b.rowIndex ∧ r.channel = b.channel ∧ r.message = b.message) ∧
      r.outcome ≠ .skipped ∧ r.errorName ≠ some UnknownChannel.reportName := by
  cases answer with
  | error fault =>
    refine ⟨⟨rfl, rfl, rfl, rfl⟩, ?_, fun h => Fault.name_ne_reportName fault (Option.some.inj h)⟩
    exact fun h => nomatch hb.symm.trans h
  | ok r =>
    by_cases hsuccess : r.success = true
    · simp [resultOf, withReceipt, hsuccess, herror]
    · simp [resultOf, withReceipt, hsuccess, hb, Fault.deliveryName, UnknownChannel.reportName]

theorem previews_self {dry : Registry ω} {r : MatchResult}
    (h : r.outcome = .skipped ∨ ∃ name, r.channel = some name ∧ dry.has name = false) :
    Previews dry r r := by
  refine ⟨rfl, rfl, rfl, rfl, fun _ => rfl, fun _ => rfl, fun houtcome hhas => ?_⟩
  rcases h with hskipped | ⟨name, hname, hnot⟩
  · exact absurd hskipped houtcome
  · rw [hhas name hname] at hnot
    cases hnot

/-- A channel that pretends makes a preview of every answer. -/
theorem previews_resultOf {dry : Registry ω} {b : MatchResult} (hb : b.outcome = .failed)
    (herror : b.errorName = none) {r : Receipt} (hsuccess : r.success = true)
    (hretries : r.retryCount = 0) (answer : Except Fault Receipt) :
    Previews dry (resultOf b (.ok r)) (resultOf b answer) := by
  obtain ⟨⟨hid, hindex, hchannel, hmessage⟩, hskipped, hunknown⟩ := resultOf_about hb herror (.ok r)
  obtain ⟨⟨hid', hindex', hchannel', hmessage'⟩, hskipped', hunknown'⟩ :=
    resultOf_about hb herror answer
  refine ⟨hid.trans hid'.symm, hindex.trans hindex'.symm, hchannel.trans hchannel'.symm,
    hmessage.trans hmessage'.symm, ?_, ?_, ?_⟩
  · rintro (h | h)
    · exact absurd h hskipped
    · exact absurd h hskipped'
  · rintro (h | h)
    · exact absurd h hunknown
    · exact absurd h hunknown'
  · intro _ _
    simp only [resultOf, withReceipt, hsuccess, if_true, hretries, and_self]

/-- A match has a preview, in whatever worlds it is settled. -/
theorem previews_resultIn {d d' : Dispatcher ω}
    (h : Registry.Counterparts t d.registry d'.registry) (found : Match) (w w' : ω) :
    Previews d.registry (d.resultIn w found) (d'.resultIn w' found) := by
  cases herror : found.error with
  | some e =>
    rw [d.resultIn_of_error w herror, d'.resultIn_of_error w' herror]
    exact previews_self (.inl rfl)
  | none =>
    cases h found.rule.channel with
    | unknown u hdry hreal =>
      rw [d.resultIn_of_unknown w herror hdry, d'.resultIn_of_unknown w' herror hreal]
      exact previews_self (.inr ⟨found.rule.channel, rfl, has_of_get_error hdry⟩)
    | @known kind settings pretender channel hdry hreal hname hpretends hchannel =>
      let s := sendingAt pretender found.rule found.row (indexOf found) w
      obtain ⟨r, effects, hrun, hsuccess, hretries, -⟩ := hpretends s.message s.metadata w
      have hvalue : s.run.value = .returned r := congrArg Run.value hrun
      rw [d.resultIn_of_get w herror hdry, d'.resultIn_of_get w' herror hreal, hvalue]
      exact previews_resultOf rfl rfl hsuccess hretries _

/-- Nothing that channels which pretend are sent reaches the world outside. -/
theorem outside_sendingsIn {d : Dispatcher ω} {real : Registry ω}
    (h : Registry.Counterparts t d.registry real) (w : ω) (found : Match) :
    ∀ s ∈ d.sendingsIn w found, Effect.outside s.run.effects = [] := by
  intro s hs
  cases herror : found.error with
  | some e =>
    rw [d.sendingsIn_of_error w herror] at hs
    cases hs
  | none =>
    cases h found.rule.channel with
    | unknown u hdry hreal =>
      rw [d.sendingsIn_of_unknown w hdry] at hs
      cases hs
    | known hdry hreal hname hpretends hchannel =>
      rw [d.sendingsIn_of_get w herror hdry] at hs
      obtain rfl := List.mem_singleton.1 hs
      obtain ⟨r, effects, hrun, -, -, houtside⟩ := hpretends _ _ w
      have heffects : (sendingAt _ found.rule found.row (indexOf found) w).run.effects = effects :=
        congrArg Run.effects hrun
      rw [heffects, houtside]

/-! ### Runs -/

theorem answers_dry {dry real : Registry ω} (h : Registry.Counterparts t dry real) : Answers dry := by
  intro name channel hget message metadata w
  cases h name with
  | unknown u hdry hreal =>
    rw [hget] at hdry
    cases hdry
  | known hdry hreal hname hpretends hchannel =>
    rw [hget] at hdry
    obtain ⟨r, effects, hrun, -⟩ := hpretends message metadata w
    rw [Except.ok.inj hdry, hrun]
    exact fun h => nomatch h

theorem answers_real (ht : t.Answers) {dry real : Registry ω} (h : Registry.Counterparts t dry real) :
    Answers real := by
  intro name channel hget message metadata
  cases h name with
  | unknown u hdry hreal =>
    rw [hget] at hreal
    cases hreal
  | known hdry hreal hname hpretends hchannel =>
    rw [hget] at hreal
    rw [Except.ok.inj hreal]
    exact ChannelKind.send_answers ht hchannel message metadata

/-- Channels that settings describe answer, in a dry run or not. -/
theorem answers_ofSettings (ht : t.Answers) {configured : List (String × Json)} {dryRun : Bool}
    {r : Registry ω} {es : List Effect} {w w' : ω}
    (h : Registry.ofSettings t configured dryRun w = ⟨.returned r, es, w'⟩) : Answers r := by
  obtain ⟨-, dry, real, hcounterparts, rfl | rfl⟩ := Registry.exists_counterparts h
  · exact answers_dry hcounterparts
  · exact answers_real ht hcounterparts

/-- The same matches have the same results in order, each with its preview. -/
theorem forall₂_previews {d d' : Dispatcher ω}
    (h : Registry.Counterparts t d.registry d'.registry) {steps steps' : List (ω × Match)}
    (hsteps : steps.map Prod.snd = steps'.map Prod.snd) :
    List.Forall₂ (Previews d.registry) (steps.map fun p => d.resultIn p.1 p.2)
      (steps'.map fun p => d'.resultIn p.1 p.2) := by
  have hmatches : List.Forall₂ Eq (steps.map Prod.snd) (steps'.map Prod.snd) := by
    rw [hsteps]
    exact List.forall₂_refl _
  have hsame : List.Forall₂ (fun p p' : ω × Match => p.2 = p'.2) steps steps' :=
    List.forall₂_map_left_iff.1 (List.forall₂_map_right_iff.1 hmatches)
  rw [List.forall₂_map_left_iff, List.forall₂_map_right_iff]
  refine hsame.imp fun p p' hp => ?_
  rw [hp]
  exact previews_resultIn h p'.2 p.1 p'.1

/-- Whatever is run in a dry run, nothing reaches the world outside. There is one result for each match,
and the exclusions and results are those of the run in earnest, with a preview for each result. -/
def RunsDry (d d' : Dispatcher ω) : Prop :=
  ∀ m : Matcher, m.Faithful → ∀ rules rows, (∀ row ∈ rows, row.index.isSome) →
    ∀ desk desk' : Desk ω, desk.slots.Ready → desk'.slots.Ready →
      ∃ summary effects after summary' effects' after',
        d.run m rules rows desk = ⟨.returned summary, effects, after⟩ ∧
        d'.run m rules rows desk' = ⟨.returned summary', effects', after'⟩ ∧
        Effect.outside effects = [] ∧ summary.results.length = (Matcher.found rules rows).length ∧
        summary.excluded = summary'.excluded ∧
        List.Forall₂ (Previews d.registry) summary.results summary'.results

theorem runsDry_of_counterparts (ht : t.Answers) {d d' : Dispatcher ω}
    (h : Registry.Counterparts t d.registry d'.registry) : RunsDry d d' := by
  intro m hm rules rows hrows desk desk' hslots hslots'
  obtain ⟨steps, summary, effects, after, hsteps, hrun, hresults, hexcluded, houtside, -⟩ :=
    d.run_in (answers_dry h) hm rules hrows hslots
  obtain ⟨steps', summary', effects', after', hsteps', hrun', hresults', hexcluded', -⟩ :=
    d'.run_in (answers_real ht h) hm rules hrows hslots'
  refine ⟨summary, effects, after, summary', effects', after', hrun, hrun', ?_, ?_,
    hexcluded.trans hexcluded'.symm, ?_⟩
  · rw [houtside, Effect.outside_flatMap]
    refine List.flatMap_eq_nil_iff.2 fun s hs => ?_
    obtain ⟨p, -, hp⟩ := List.mem_flatMap.1 hs
    exact outside_sendingsIn h p.1 p.2 s hp
  · rw [hresults, ← hsteps, List.length_map, List.length_map]
  · rw [hresults, hresults']
    exact forall₂_previews h (hsteps.trans hsteps'.symm)

/-- **A dry run is a silent and faithful preview.** Channels that settings describe are registered for
a dry run just as they are in earnest, or the same fault tells why not; so too if the settings of a
channel say that it is no dry run. A run over the registry for the dry run leaves the world outside
alone and returns what a run over the other registry does, with a preview for each result. -/
theorem dry_run_previews (t : Transport ω) (ht : t.Answers) (configured : List (String × Json))
    (w : ω) :
    (∃ fault es es', Registry.ofSettings t configured true w = ⟨.failed fault, es, w⟩ ∧
        Registry.ofSettings t configured false w = ⟨.failed fault, es', w⟩) ∨
      ∃ dry real es es', Registry.ofSettings t configured true w = ⟨.returned dry, es, w⟩ ∧
        Registry.ofSettings t configured false w = ⟨.returned real, es', w⟩ ∧
        Effect.outside es = [] ∧
        ∀ d : Dispatcher ω, RunsDry { d with registry := dry } { d with registry := real } := by
  obtain ⟨ending, ending', es, es', hdry, hreal, hes, -, hend⟩ :=
    Registry.ofSettings_alike t configured w
  cases hend with
  | failed fault => exact .inl ⟨fault, es, es', hdry, hreal⟩
  | @returned dry real h =>
    exact .inr ⟨dry, real, es, es', hdry, hreal, hes, fun d => runsDry_of_counterparts ht h⟩

/-- A transport that takes every request and every mail, and counts the requests in the world. -/
def countingTransport : Transport Nat where
  http _ w := (.returned ⟨200, "OK"⟩, w + 1)
  mail _ w := (.returned (), w)

theorem countingTransport_answers : countingTransport.Answers :=
  ⟨fun _ _ h => (nomatch h), fun _ _ h => (nomatch h)⟩

/-- A channel whose settings say that it is no dry run. -/
def earnestSettings : List (String × Json) :=
  [("slack", .obj [("enabled", .bool true), ("webhook_url", .str "https://hooks.example.com/x"),
    ("timeout", .float (.ofRatio false 10 1)), ("dry_run", .bool false)])]

/-- A dry run over these settings, next to a run in earnest: one rule sends a message about a row. -/
theorem dry_run_previews_earnest :
    ∃ dry real es es',
      Registry.ofSettings countingTransport earnestSettings true 0 = ⟨.returned dry, es, 0⟩ ∧
      Registry.ofSettings countingTransport earnestSettings false 0 = ⟨.returned real, es', 0⟩ ∧
      dry.has "slack" = true ∧
      ∃ summary effects after summary' effects' after',
        { countingDispatcher with registry := dry }.run (.fresh (.ofCount 1 .inOrder))
            [⟨1, "Slack", "true", "m", true⟩] [⟨[], [], some 0⟩] (countingDispatcher.desk 0)
          = ⟨.returned summary, effects, after⟩ ∧
        { countingDispatcher with registry := real }.run (.fresh (.ofCount 1 .inOrder))
            [⟨1, "Slack", "true", "m", true⟩] [⟨[], [], some 0⟩] (countingDispatcher.desk 0)
          = ⟨.returned summary', effects', after'⟩ ∧
        Effect.outside effects = [] ∧ summary.results.length = 1 ∧
        List.Forall₂ (Previews dry) summary.results summary'.results := by
  rcases dry_run_previews countingTransport countingTransport_answers earnestSettings 0 with
    ⟨fault, es, es', hdry, -⟩ | ⟨dry, real, es, es', hdry, hreal, -, hruns⟩
  · cases hdry
  · have hslack : dry.has "slack" = true := by
      cases hdry
      rfl
    obtain ⟨summary, effects, after, summary', effects', after', hrun, hrun', houtside, hlength, -,
      hpreviews⟩ := hruns countingDispatcher (.fresh (.ofCount 1 .inOrder))
        (Matcher.faithful_fresh _) [⟨1, "Slack", "true", "m", true⟩] [⟨[], [], some 0⟩] (by decide)
        (countingDispatcher.desk 0) (countingDispatcher.desk 0) (SendSlots.ready_fresh (by decide))
        (SendSlots.ready_fresh (by decide))
    have hfound : (Matcher.found [⟨1, "Slack", "true", "m", true⟩] [⟨[], [], some 0⟩]).length = 1 := by
      rfl
    exact ⟨dry, real, es, es', hdry, hreal, hslack, summary, effects, after, summary', effects', after',
      hrun, hrun', houtside, hlength.trans hfound, hpreviews⟩

end Dispatcher

end RowAlert
