import RowAlert.Proofs.Entries
import RowAlert.Proofs.Registry
import RowAlert.Proofs.Settings
/-!
# RowAlert.Proofs.Overrides

**Settings of channels in a rule file, over those of the environment.**

A rule file overrides the settings that the environment gives a channel, key by key, under the exact
name of the channel (`merge`), while the registry takes a name in any letter case. What is registered
for a kind depends on the entries whose name means it, and merging keeps to these (`entriesFor_merge`).
So the file has its way with a channel whose name it spells as the program does; under another
spelling its entry stands beside that of the environment, and is the later one
(`channels_registered`).
-/

namespace RowAlert

namespace Settings

open Registry (isEnabled entriesFor lastEnabled objects Holds Unbuildable)

/-! ### Merging -/

/-- Channels with the fields that are given under their names; other names are further channels. -/
def merge (channels : Entries String ChannelSettings)
    (given : List (String × ChannelSettings)) : Entries String ChannelSettings :=
  given.foldl (fun channels (name, fields) =>
    Entries.put channels name (Entries.putAll ((Entries.get? channels name).getD []) fields)) channels

theorem overrideFields_obj (fields : ChannelSettings) : overrideFields (.obj fields) = .ok fields := by
  cases fields <;> rfl

/-- Overrides that are objects can always be merged. -/
theorem override_objects (channels : Entries String ChannelSettings)
    (given : List (String × ChannelSettings)) :
    override channels (objects given) = .ok (merge channels given) := by
  induction given generalizing channels with
  | nil => rfl
  | cons entry given ih =>
    obtain ⟨name, fields⟩ := entry
    show (overrideFields (.obj fields) >>= fun fields => override (Entries.put channels name
      (Entries.putAll ((Entries.get? channels name).getD []) fields)) (objects given)) = _
    rw [overrideFields_obj]
    exact ih _

theorem entriesFor_put (kind : ChannelKind) (channels : Entries String ChannelSettings)
    (name : String) (settings : ChannelSettings) :
    entriesFor kind (Entries.put channels name settings)
      = if Text.lower name = kind.name then Entries.put (entriesFor kind channels) name settings
        else entriesFor kind channels := by
  simpa [entriesFor]
    using Entries.filter_put channels (fun name => Text.lower name = kind.name) name settings

theorem get?_entriesFor {kind : ChannelKind} (channels : Entries String ChannelSettings)
    {name : String} (h : Text.lower name = kind.name) :
    Entries.get? (entriesFor kind channels) name = Entries.get? channels name :=
  Entries.get?_filter channels (p := fun name => Text.lower name = kind.name) (decide_eq_true h)

/-- Merging keeps to the entries that mean a kind. -/
theorem entriesFor_merge (kind : ChannelKind) (channels : Entries String ChannelSettings)
    (given : List (String × ChannelSettings)) :
    entriesFor kind (merge channels given)
      = merge (entriesFor kind channels) (entriesFor kind given) := by
  induction given generalizing channels with
  | nil => rfl
  | cons entry given ih =>
    obtain ⟨name, fields⟩ := entry
    simp only [merge, List.foldl_cons] at ih ⊢
    rw [ih, Registry.entriesFor_cons, entriesFor_put]
    by_cases hname : Text.lower name = kind.name
    · rw [if_pos hname, if_pos hname, List.foldl_cons, get?_entriesFor channels hname]
    · -- Entries that mean another kind change nothing here.
      rw [if_neg hname, if_neg hname]

/-! ### Entries that mean a kind -/

/-- The environment has one entry for each kind, under its name. -/
theorem entriesFor_environmentChannels {env : Environment} {own : Entries String ChannelSettings}
    (h : environmentChannels env = .ok own) (kind : ChannelKind) :
    ∃ settings, Entries.get? own kind.name = some settings ∧
      entriesFor kind own = [(kind.name, settings)] := by
  obtain ⟨mail, -, hown⟩ := exists_of_bind_eq_ok h
  obtain rfl : [(ChannelKind.email.name, mail), (ChannelKind.slack.name, slack env),
    (ChannelKind.webhook.name, webhook env)] = own := Except.ok.inj hown
  cases kind <;>
    exact ⟨_, rfl, by simp [Registry.entriesFor_cons, ChannelKind.lower_name_eq_iff]; rfl⟩

/-- Names that are distinct in any letter case have at most one entry for a kind. -/
theorem entriesFor_of_distinct {given : List (String × ChannelSettings)}
    (h : (given.map fun entry => Text.lower entry.1).Nodup) (kind : ChannelKind) :
    entriesFor kind given = [] ∨ ∃ name fields, entriesFor kind given = [(name, fields)] := by
  induction given with
  | nil => exact .inl rfl
  | cons entry given ih =>
    obtain ⟨name, fields⟩ := entry
    obtain ⟨hfirst, hrest⟩ := List.nodup_cons.1 h
    rw [Registry.entriesFor_cons]
    split
    · rename_i hname
      have hnone : entriesFor kind given = [] := by
        refine List.filter_eq_nil_iff.2 fun other hother => ?_
        rw [decide_eq_true_eq]
        intro hsame
        exact hfirst (List.mem_map.2 ⟨other, hother, hsame.trans hname.symm⟩)
      rw [hnone]
      exact .inr ⟨name, fields, rfl⟩
    · exact ih hrest

/-! ### Registering -/

/-- The settings, if they enable their channel. -/
def wanted (settings : ChannelSettings) : Option ChannelSettings :=
  if isEnabled settings then some settings else none

/-- The settings that the environment gives a kind of channel. -/
def ownSettings (own : Entries String ChannelSettings) (kind : ChannelKind) : ChannelSettings :=
  (Entries.get? own kind.name).getD []

/-- The fields that are given for a kind, under its name in any letter case. -/
def fieldsFor (kind : ChannelKind) (given : List (String × ChannelSettings)) : ChannelSettings :=
  ((entriesFor kind given).head?.map Prod.snd).getD []

/-- The settings of a kind if those that are given win over its own, key by key. -/
def effective (s : Settings) (own : Entries String ChannelSettings)
    (given : List (String × ChannelSettings)) (kind : ChannelKind) : ChannelSettings :=
  s.complete (Entries.putAll (ownSettings own kind) (fieldsFor kind given))

/-- The settings of all channels, if the given ones are objects. -/
def merged (s : Settings) (own : Entries String ChannelSettings)
    (given : List (String × ChannelSettings)) : Entries String ChannelSettings :=
  (merge own given).map fun (name, settings) => (name, s.complete settings)

theorem channels_objects {s : Settings} {env : Environment} {own : Entries String ChannelSettings}
    (h : environmentChannels env = .ok own) (given : List (String × ChannelSettings)) :
    s.channels env (objects given) = .ok (s.merged own given) := by
  rw [channels, h]
  show (override own (objects given) >>= _) = _
  rw [override_objects]
  rfl

theorem entriesFor_merged (s : Settings) {env : Environment} {own : Entries String ChannelSettings}
    (h : environmentChannels env = .ok own) (given : List (String × ChannelSettings))
    (kind : ChannelKind) :
    entriesFor kind (s.merged own given)
      = (merge [(kind.name, ownSettings own kind)] (entriesFor kind given)).map
          fun (name, settings) => (name, s.complete settings) := by
  obtain ⟨settings, hget, hentries⟩ := entriesFor_environmentChannels h kind
  rw [ownSettings, hget, Option.getD_some, ← hentries, ← entriesFor_merge]
  simp only [entriesFor, merged, List.filter_map]
  rfl

theorem last_of_one (settings : ChannelSettings) :
    ([settings].filter isEnabled).getLast? = wanted settings := by
  by_cases h : isEnabled settings = true <;> simp [wanted, h]

theorem last_of_two (first second : ChannelSettings) :
    ([first, second].filter isEnabled).getLast? = (wanted second).or (wanted first) := by
  by_cases hfirst : isEnabled first = true <;> by_cases hsecond : isEnabled second = true <;>
    simp [wanted, hfirst, hsecond]

section

variable {s : Settings} {env : Environment} {own : Entries String ChannelSettings}
  {given : List (String × ChannelSettings)} {kind : ChannelKind}

/-- Under the exact name of its kind, an entry wins key by key. -/
theorem lastEnabled_of_exact (h : environmentChannels env = .ok own)
    (hdistinct : (given.map fun entry => Text.lower entry.1).Nodup)
    (hexact : ∀ entry ∈ entriesFor kind given, entry.1 = kind.name) :
    lastEnabled kind (s.merged own given) = wanted (s.effective own given kind) := by
  rw [lastEnabled, entriesFor_merged s h, effective, fieldsFor]
  rcases entriesFor_of_distinct hdistinct kind with hnone | ⟨name, fields, hone⟩
  · rw [hnone]
    exact last_of_one _
  · rw [hone] at hexact ⊢
    obtain rfl : name = kind.name := hexact _ List.mem_cons_self
    simp only [merge, List.foldl_cons, List.foldl_nil, Entries.put, Entries.get?, if_true]
    exact last_of_one _

/-- Under another spelling, an entry and that of the environment stand side by side, each with its
own fields only. -/
theorem lastEnabled_of_spelling (h : environmentChannels env = .ok own)
    (hdistinct : (given.map fun entry => Text.lower entry.1).Nodup) {name : String}
    {fields : ChannelSettings} (hentry : (name, fields) ∈ entriesFor kind given)
    (hname : name ≠ kind.name) :
    lastEnabled kind (s.merged own given)
      = (wanted (s.complete (Entries.putAll [] fields))).or
          (wanted (s.complete (ownSettings own kind))) := by
  rw [lastEnabled, entriesFor_merged s h]
  rcases entriesFor_of_distinct hdistinct kind with hnone | ⟨name', fields', hone⟩
  · rw [hnone] at hentry
    cases hentry
  · rw [hone] at hentry ⊢
    obtain ⟨rfl, rfl⟩ := Prod.mk.inj (List.mem_singleton.1 hentry)
    simp only [merge, List.foldl_cons, List.foldl_nil, Entries.put, Entries.get?, Ne.symm hname,
      if_false]
    exact last_of_two _ _

end

/-- What a registry has for a kind, by the settings that the environment and a rule file give. -/
structure Registered {ω : Type} (t : Transport ω) (s : Settings)
    (own : Entries String ChannelSettings) (given : List (String × ChannelSettings))
    (r : Registry ω) (kind : ChannelKind) : Prop where
  /-- If the file names the kind exactly, or not at all, its settings are put over those of the
  environment, and the channel is there if the outcome enables it. -/
  named : (∀ entry ∈ entriesFor kind given, entry.1 = kind.name) →
    Holds t s.dryRun r kind (wanted (s.effective own given kind))
  /-- If the file spells the kind in another way, its settings count on their own if they enable the
  channel, and else those of the environment do on theirs. -/
  respelled : ∀ name fields, (name, fields) ∈ entriesFor kind given → name ≠ kind.name →
    Holds t s.dryRun r kind ((wanted (s.complete (Entries.putAll [] fields))).or
      (wanted (s.complete (ownSettings own kind))))

/-- The settings of the environment and of a rule file make a registry of the channels that they
enable, unless one of these channels cannot be built. -/
theorem channels_registered {ω : Type} (t : Transport ω) (s : Settings) {env : Environment}
    {own : Entries String ChannelSettings} (hown : environmentChannels env = .ok own)
    {given : List (String × ChannelSettings)}
    (hdistinct : (given.map fun entry => Text.lower entry.1).Nodup) (w : ω) :
    ∃ all, s.channels env (objects given) = .ok all ∧
      ((∃ r effects, Registry.ofSettings t (objects all) s.dryRun w = ⟨.returned r, effects, w⟩ ∧
          ∀ kind, Registered t s own given r kind) ∨
        ∃ fault effects, Registry.ofSettings t (objects all) s.dryRun w
            = ⟨.failed fault, effects, w⟩ ∧ Unbuildable t s.dryRun all fault) := by
  refine ⟨s.merged own given, channels_objects hown given, ?_⟩
  rcases Registry.ofSettings_objects t s.dryRun (s.merged own given) w with
    ⟨r, effects, hrun, hholds⟩ | hfailed
  · refine .inl ⟨r, effects, hrun, fun kind => ⟨?_, ?_⟩⟩
    · intro hexact
      rw [← lastEnabled_of_exact hown hdistinct hexact]
      exact hholds kind
    · intro name fields hentry hname
      rw [← lastEnabled_of_spelling hown hdistinct hentry hname]
      exact hholds kind
  · exact .inr hfailed

/-- A world in which nothing ever answers. -/
def silence : Transport Unit := ⟨fun _ w => (.hanging, w), fun _ w => (.hanging, w)⟩

/-- The settings of a run that nothing is said about. -/
def defaults : Settings := ⟨false, 4, 4, .ofRatio false 10 1, 0, "INFO"⟩

/-- A rule file that disables a channel which the environment enables. -/
theorem channels_registered_disabled :
    ∃ own all r effects, environmentChannels [("SLACK_ENABLED", "true")] = .ok own ∧
      defaults.channels [("SLACK_ENABLED", "true")] (objects [("slack", [("enabled", .bool false)])])
        = .ok all ∧
      Registry.ofSettings silence (objects all) false () = ⟨.returned r, effects, ()⟩ ∧
      r.has "slack" = false := by
  obtain ⟨all, hall, ⟨r, effects, hrun, hkinds⟩ | ⟨fault, effects, hrun, hfault⟩⟩ :=
    @channels_registered Unit silence defaults [("SLACK_ENABLED", "true")] _ rfl
      [("slack", [("enabled", .bool false)])] (by decide) ()
  · exact ⟨_, all, r, effects, rfl, hall, hrun, (hkinds .slack).named (by decide)⟩
  · -- No channel is enabled, so none can fail to be built.
    obtain ⟨name, settings, kind, hmem, -, henabled, -⟩ := hfault
    have hdisabled : ∀ entry ∈ all, isEnabled entry.2 = false := by
      cases hall
      decide
    rw [hdisabled _ hmem] at henabled
    cases henabled

/-- A rule file that disables the channel under another spelling of its name. -/
theorem not_registered_as_effective :
    ¬∀ (s : Settings) (env : Environment) (own all : Entries String ChannelSettings)
      (given : List (String × ChannelSettings)) (r : Registry Unit) (effects : List Effect),
      environmentChannels env = .ok own → (given.map fun entry => Text.lower entry.1).Nodup →
      s.channels env (objects given) = .ok all →
      Registry.ofSettings silence (objects all) s.dryRun () = ⟨.returned r, effects, ()⟩ →
      ∀ kind, Holds silence s.dryRun r kind (wanted (s.effective own given kind)) := by
  intro h
  have hslack := h defaults [("SLACK_ENABLED", "true")] _ _ [("Slack", [("enabled", .bool false)])] _ _
    rfl (by decide) rfl rfl .slack
  cases hslack

end Settings

end RowAlert
