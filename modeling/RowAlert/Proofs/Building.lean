import RowAlert.Proofs.Calls
import RowAlert.Proofs.Registry
import RowAlert.Proofs.Settings
/-!
# RowAlert.Proofs.Building

**Which settings make a channel.**

A channel is built from three of its settings, which are read at once: the retries, the timeout and,
for a web hook, the method. It can be built exactly if these can be read (`exists_channel_iff`); all
other settings are looked at when a message is sent. So a registry can be made of some settings exactly
if every entry that means a kind of channel and enables it can be read (`ofSettings_returns_iff`).

A dry run adds one setting, which has no part in this (`buildable_withDryRun`).
-/

namespace RowAlert

theorem Setting.get_put_of_ne (settings : ChannelSettings) {name other : String}
    (h : other ≠ name) (value default : Json) :
    get (Entries.put settings other value) name default = get settings name default := by
  rw [get, Entries.get?_put, if_neg h, get]

/-! ### Building a channel -/

/-- The settings that all channels have can be read. -/
structure Policy.Readable (settings : ChannelSettings) : Prop where
  maxRetries : ∃ n, Setting.integer (Setting.get settings "max_retries" (.int 0)) = .ok n
  timeout : ∃ x, Setting.number (Setting.get settings "timeout" (.int 10)) = .ok x

/-- The settings that are read when a channel is built can be read. -/
structure Buildable (kind : ChannelKind) (settings : ChannelSettings) : Prop where
  policy : Policy.Readable settings
  method : kind = .webhook → ∃ text, Setting.get settings "method" (.str "POST") = .str text

theorem Policy.exists_ofSettings_iff (settings : ChannelSettings) :
    (∃ p, Policy.ofSettings settings = .ok p) ↔ Readable settings := by
  unfold Policy.ofSettings
  rw [exists_bind_eq_ok_iff]
  constructor
  · rintro ⟨n, hn, hrest⟩
    obtain ⟨x, hx, -⟩ := exists_bind_eq_ok_iff.1 hrest
    exact ⟨⟨n, hn⟩, x, hx⟩
  · rintro ⟨⟨n, hn⟩, x, hx⟩
    exact ⟨n, hn, exists_bind_eq_ok_iff.2 ⟨x, hx, _, rfl⟩⟩

/-- What is built behind the policy can be built if the policy can be read and the rest can be built. -/
theorem Policy.exists_bind_ofSettings_iff {β : Type} {settings : ChannelSettings}
    {f : Policy → Except Fault β} {rest : Prop} (hf : ∀ p, (∃ b, f p = .ok b) ↔ rest) :
    (∃ b, (Policy.ofSettings settings >>= f) = .ok b) ↔ Readable settings ∧ rest := by
  rw [exists_bind_eq_ok_iff, ← exists_ofSettings_iff]
  constructor
  · rintro ⟨p, hp, hrest⟩
    exact ⟨⟨p, hp⟩, (hf p).1 hrest⟩
  · rintro ⟨⟨p, hp⟩, hrest⟩
    exact ⟨p, hp, (hf p).2 hrest⟩

theorem Webhook.Endpoint.exists_ofSettings_iff (settings : ChannelSettings) :
    (∃ endpoint, ofSettings settings = .ok endpoint)
      ↔ ∃ text, Setting.get settings "method" (.str "POST") = .str text := by
  unfold ofSettings
  rw [exists_bind_eq_ok_iff]
  cases Setting.get settings "method" (.str "POST") with
  | str text => exact ⟨fun _ => ⟨text, rfl⟩, fun _ => ⟨_, rfl, _, rfl⟩⟩
  | _ =>
    constructor
    · rintro ⟨_, h, -⟩
      cases h
    · rintro ⟨_, h⟩
      cases h

/-- A channel can be built exactly if its settings are buildable. -/
theorem ChannelKind.exists_channel_iff {ω : Type} (t : Transport ω) (kind : ChannelKind)
    (settings : ChannelSettings) :
    (∃ channel, kind.channel t settings = .ok channel) ↔ Buildable kind settings := by
  have hplain : kind ≠ .webhook → (Policy.Readable settings ∧ True ↔ Buildable kind settings) :=
    fun hkind => ⟨fun h => ⟨h.1, fun heq => absurd heq hkind⟩, fun h => ⟨h.policy, trivial⟩⟩
  cases kind with
  | email =>
    rw [channel, exists_map_eq_ok_iff, Email.carrier, ← hplain (by decide)]
    exact Policy.exists_bind_ofSettings_iff fun p => ⟨fun _ => trivial, fun _ => ⟨_, rfl⟩⟩
  | slack =>
    rw [channel, exists_map_eq_ok_iff, Slack.carrier, ← hplain (by decide)]
    exact Policy.exists_bind_ofSettings_iff fun p => ⟨fun _ => trivial, fun _ => ⟨_, rfl⟩⟩
  | webhook =>
    rw [channel, exists_map_eq_ok_iff, Webhook.carrier, Policy.exists_bind_ofSettings_iff fun p => ?_]
    · exact ⟨fun h => ⟨h.1, fun _ => h.2⟩, fun h => ⟨h.policy, h.method rfl⟩⟩
    · rw [← Webhook.Endpoint.exists_ofSettings_iff, exists_bind_eq_ok_iff]
      exact ⟨fun ⟨e, he, _⟩ => ⟨e, he⟩, fun ⟨e, he⟩ => ⟨e, he, _, rfl⟩⟩

/-! ### Building a registry -/

namespace Registry

variable {ω : Type}

/-- Asking for a dry run has no part in what is read. -/
theorem buildable_withDryRun (kind : ChannelKind) (dryRun : Bool) (settings : ChannelSettings) :
    Buildable kind (withDryRun dryRun settings) ↔ Buildable kind settings := by
  have hget : ∀ name default, "dry_run" ≠ name →
      Setting.get (withDryRun dryRun settings) name default = Setting.get settings name default := by
    intro name default hname
    unfold withDryRun
    split
    · exact Setting.get_put_of_ne settings hname _ default
    · rfl
  constructor
  · rintro ⟨⟨hretries, htimeout⟩, hmethod⟩
    rw [hget _ _ (by decide)] at hretries htimeout hmethod
    exact ⟨⟨hretries, htimeout⟩, hmethod⟩
  · rintro ⟨⟨hretries, htimeout⟩, hmethod⟩
    rw [← hget _ _ (by decide)] at hretries htimeout hmethod
    exact ⟨⟨hretries, htimeout⟩, hmethod⟩

/-- Every entry that means a kind and enables its channel is buildable. -/
def AllBuildable (configured : List (String × ChannelSettings)) : Prop :=
  ∀ name settings kind, (name, settings) ∈ configured → Text.lower name = kind.name →
    isEnabled settings = true → Buildable kind settings

variable {t : Transport ω} {dryRun : Bool}

theorem allBuildable_iff {configured : List (String × ChannelSettings)} :
    AllBuildable configured ↔ ¬∃ fault, Unbuildable t dryRun configured fault := by
  constructor
  · rintro h ⟨fault, name, settings, kind, hmem, hname, henabled, hchannel⟩
    have hbuildable := (buildable_withDryRun kind dryRun settings).2 (h _ _ _ hmem hname henabled)
    obtain ⟨channel, hok⟩ := (kind.exists_channel_iff t _).2 hbuildable
    rw [hok] at hchannel
    cases hchannel
  · intro h name settings kind hmem hname henabled
    rw [← buildable_withDryRun kind dryRun, ← kind.exists_channel_iff t]
    cases hchannel : kind.channel t (withDryRun dryRun settings) with
    | ok channel => exact ⟨channel, rfl⟩
    | error fault => exact absurd ⟨fault, name, settings, kind, hmem, hname, henabled, hchannel⟩ h

/-- A channel that cannot be built is not passed over. -/
theorem addAll_of_unbuildable {configured : List (String × ChannelSettings)} {fault : Fault}
    (h : Unbuildable t dryRun configured fault) (r : Registry ω) (w : ω) :
    ∃ fault' effects, addAll t dryRun r (objects configured) w = ⟨.failed fault', effects, w⟩ := by
  induction configured generalizing r with
  | nil =>
    obtain ⟨_, _, _, hmem, -⟩ := h
    cases hmem
  | cons entry configured ih =>
    obtain ⟨name, settings⟩ := entry
    have hunfold : addAll t dryRun r (objects ((name, settings) :: configured))
        = addConfigured t dryRun r name (.obj settings) >>= fun r =>
          addAll t dryRun r (objects configured) := rfl
    obtain ⟨ending, effects, hrun, hadds⟩ := adds_addConfigured t dryRun r name settings w
    rw [hunfold]
    cases ending with
    | failed fault' => exact ⟨fault', effects, Call.bind_of_failed hrun _⟩
    | hanging => cases hadds
    | returned r' =>
      rw [Call.bind_of_returned hrun]
      obtain ⟨name', settings', kind, hmem, hname, henabled, hchannel⟩ := h
      rcases List.mem_cons.1 hmem with hfirst | hrest
      · obtain ⟨rfl, rfl⟩ := Prod.mk.inj hfirst
        -- The first entry is the one in question, so it was not added.
        cases hadds with
        | passed h =>
          rw [h kind hname] at henabled
          cases henabled
        | registered hname' _ hchannel' =>
          obtain rfl := ChannelKind.eq_of_name_eq (hname.symm.trans hname')
          rw [hchannel] at hchannel'
          cases hchannel'
      · obtain ⟨fault', effects', hfails⟩ :=
          ih ⟨name', settings', kind, hrest, hname, henabled, hchannel⟩ r'
        rw [hfails]
        exact ⟨fault', _, rfl⟩

/-- A registry can be made of settings exactly if every channel that they enable can be built. -/
theorem ofSettings_returns_iff (t : Transport ω) (dryRun : Bool)
    (configured : List (String × ChannelSettings)) (w : ω) :
    (∃ r, (ofSettings t (objects configured) dryRun w).value = .returned r)
      ↔ AllBuildable configured := by
  rw [@allBuildable_iff ω t dryRun]
  constructor
  · rintro ⟨r, hr⟩ ⟨fault, hfault⟩
    obtain ⟨fault', effects, hfails⟩ := addAll_of_unbuildable hfault empty w
    rw [ofSettings, Call.bind_of_failed hfails] at hr
    cases hr
  · intro hnone
    rcases ofSettings_objects t dryRun configured w with ⟨r, effects, hrun, -⟩ | ⟨fault, _, -, h⟩
    · exact ⟨r, by rw [hrun]⟩
    · exact absurd ⟨fault, h⟩ hnone

end Registry

end RowAlert
