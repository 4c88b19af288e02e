import RowAlert.Proofs.Session
import RowAlert.Registry
/-!
# RowAlert.Proofs.Registry

**Which channels settings put into a registry.**

An entry changes the registry only if its name means a kind of channel and its settings enable it
(`Adds`), and then its channel takes the place of an earlier one of this kind. So what is registered
for a kind in the end is the last entry that means it and enables it (`ofSettings_objects`), unless
some channel cannot be built.
-/

namespace RowAlert

namespace ChannelKind

theorem lower_name (kind : ChannelKind) : Text.lower kind.name = kind.name := by
  cases kind <;> rfl

theorem eq_of_name_eq {kind kind' : ChannelKind} (h : kind.name = kind'.name) : kind = kind' := by
  revert h
  cases kind <;> cases kind' <;> decide

theorem name_of_ofName? {name : String} {kind : ChannelKind} (h : ofName? name = some kind) :
    kind.name = Text.lower name := by
  have hfound := List.find?_some h
  exact of_decide_eq_true hfound

theorem lower_name_eq_iff {kind kind' : ChannelKind} :
    Text.lower kind.name = kind'.name ↔ kind = kind' := by
  rw [lower_name]
  exact ⟨eq_of_name_eq, fun h => h ▸ rfl⟩

/-- A name means a kind if it is the name of the kind in some letter case. -/
theorem ofName?_eq_some_iff {name : String} {kind : ChannelKind} :
    ofName? name = some kind ↔ Text.lower name = kind.name := by
  constructor
  · exact fun h => (name_of_ofName? h).symm
  · intro h
    cases hfound : ofName? name with
    | none =>
      have hnot := List.find?_eq_none.1 hfound kind (by cases kind <;> decide)
      exact absurd h.symm (by simpa using hnot)
    | some kind' => rw [eq_of_name_eq ((name_of_ofName? hfound).trans h)]

end ChannelKind

namespace Registry

variable {ω : Type}

/-! ### Lookups -/

theorem get_insert (r : Registry ω) (name key : String) (channel : Channel ω) :
    (r.insert name channel).get key
      = if Text.lower name = Text.lower key then .ok channel else r.get key := by
  simp only [get, insert, Entries.get?_put]
  by_cases hname : Text.lower name = Text.lower key <;> simp only [hname, if_true, if_false]

theorem has_insert (r : Registry ω) (name key : String) (channel : Channel ω) :
    (r.insert name channel).has key = (decide (Text.lower name = Text.lower key) || r.has key) := by
  rw [has, insert, Entries.has, Entries.get?_put]
  split <;> simp_all [has, Entries.has]

theorem has_of_get {r : Registry ω} {name : String} {channel : Channel ω}
    (h : r.get name = .ok channel) : r.has name = true := by
  unfold get at h
  unfold has Entries.has
  split at h
  · rename_i hsome
    rw [hsome]
    rfl
  · cases h

/-- A channel is found under its name in any letter case. -/
theorem get_eq_ok_of_lower {r : Registry ω} {name name' : String} {channel : Channel ω}
    (h : Text.lower name = Text.lower name') (hget : r.get name = .ok channel) :
    r.get name' = .ok channel := by
  unfold get at hget ⊢
  rw [← h]
  split at hget
  · exact hget
  · cases hget

/-! ### What is wanted of a kind -/

/-- Do the settings enable their channel? -/
def isEnabled (settings : ChannelSettings) : Bool :=
  (Setting.get settings "enabled" (.bool false)).truthy

/-- The entries whose name means the kind. -/
def entriesFor (kind : ChannelKind) (configured : List (String × ChannelSettings)) :
    List (String × ChannelSettings) :=
  configured.filter fun entry => Text.lower entry.1 = kind.name

theorem entriesFor_cons (kind : ChannelKind) (name : String) (settings : ChannelSettings)
    (configured : List (String × ChannelSettings)) :
    entriesFor kind ((name, settings) :: configured)
      = if Text.lower name = kind.name then (name, settings) :: entriesFor kind configured
        else entriesFor kind configured := by
  simp [entriesFor, List.filter_cons]

/-- The settings of the last entry that means the kind and enables it. -/
def lastEnabled (kind : ChannelKind) (configured : List (String × ChannelSettings)) :
    Option ChannelSettings :=
  (((entriesFor kind configured).map Prod.snd).filter isEnabled).getLast?

theorem lastEnabled_snoc (kind : ChannelKind) (before : List (String × ChannelSettings))
    (name : String) (settings : ChannelSettings) :
    lastEnabled kind (before ++ [(name, settings)])
      = if Text.lower name = kind.name ∧ isEnabled settings = true then some settings
        else lastEnabled kind before := by
  by_cases hname : Text.lower name = kind.name
  · by_cases henabled : isEnabled settings = true
    · simp [lastEnabled, entriesFor, List.filter_append, hname, henabled]
    · simp [lastEnabled, entriesFor, List.filter_append, hname, henabled]
  · simp [lastEnabled, entriesFor, List.filter_append, hname]

/-- The registry has the channel that these settings make of a kind; without settings it has no
channel of the kind. -/
def Holds (t : Transport ω) (dryRun : Bool) (r : Registry ω) (kind : ChannelKind) :
    Option ChannelSettings → Prop
  | none => r.has kind.name = false
  | some settings => ∃ channel, kind.channel t (withDryRun dryRun settings) = .ok channel ∧
      r.get kind.name = .ok channel

variable {t : Transport ω} {dryRun : Bool} {r r' : Registry ω}

/-- A channel of a kind is made of the settings that the registry has for the kind. -/
theorem Holds.exists_of_get {kind : ChannelKind} {wanted : Option ChannelSettings}
    (h : Holds t dryRun r kind wanted) {channel : Channel ω} (hget : r.get kind.name = .ok channel) :
    ∃ settings, wanted = some settings ∧
      kind.channel t (withDryRun dryRun settings) = .ok channel := by
  cases wanted with
  | none =>
    have hhas : r.has kind.name = false := h
    rw [has_of_get hget] at hhas
    cases hhas
  | some settings =>
    obtain ⟨channel', hchannel, hget'⟩ := h
    rw [hget] at hget'
    exact ⟨settings, rfl, by rw [hchannel, Except.ok.inj hget']⟩

theorem holds_empty (kind : ChannelKind) : Holds t dryRun empty kind none := rfl

theorem Holds.insert_same {kind : ChannelKind} {name : String} {settings : ChannelSettings}
    {channel : Channel ω} (hname : Text.lower name = kind.name)
    (hchannel : kind.channel t (withDryRun dryRun settings) = .ok channel) :
    Holds t dryRun (r.insert name channel) kind (some settings) := by
  refine ⟨channel, hchannel, ?_⟩
  rw [get_insert, kind.lower_name, if_pos hname]

theorem Holds.insert_other {kind : ChannelKind} {name : String} {channel : Channel ω}
    {wanted : Option ChannelSettings} (h : Holds t dryRun r kind wanted)
    (hname : Text.lower name ≠ kind.name) : Holds t dryRun (r.insert name channel) kind wanted := by
  cases wanted with
  | none =>
    have hhas : r.has kind.name = false := h
    show (r.insert name channel).has kind.name = false
    rw [has_insert, kind.lower_name, decide_eq_false hname, hhas]
    rfl
  | some settings =>
    obtain ⟨channel', hchannel, hget⟩ := h
    refine ⟨channel', hchannel, ?_⟩
    rw [get_insert, kind.lower_name, if_neg hname, hget]

/-! ### One entry -/

/-- How adding an entry can end. -/
inductive Adds (t : Transport ω) (dryRun : Bool) (r : Registry ω) (name : String)
    (settings : ChannelSettings) : Ending (Registry ω) → Prop
  /-- The entry means no kind, or it does not enable its channel. -/
  | passed (h : ∀ kind : ChannelKind, Text.lower name = kind.name → isEnabled settings = false) :
      Adds t dryRun r name settings (.returned r)
  | registered {kind : ChannelKind} {channel : Channel ω} (hname : Text.lower name = kind.name)
      (henabled : isEnabled settings = true)
      (hchannel : kind.channel t (withDryRun dryRun settings) = .ok channel) :
      Adds t dryRun r name settings (.returned (r.insert name channel))
  | failed {kind : ChannelKind} {fault : Fault} (hname : Text.lower name = kind.name)
      (henabled : isEnabled settings = true)
      (hchannel : kind.channel t (withDryRun dryRun settings) = .error fault) :
      Adds t dryRun r name settings (.failed fault)

theorem adds_addConfigured (t : Transport ω) (dryRun : Bool) (r : Registry ω) (name : String)
    (settings : ChannelSettings) (w : ω) :
    ∃ ending effects, addConfigured t dryRun r name (.obj settings) w = ⟨ending, effects, w⟩ ∧
      Adds t dryRun r name settings ending := by
  cases hname : ChannelKind.ofName? name with
  | none =>
    simp only [addConfigured, hname]
    refine ⟨_, _, rfl, .passed fun kind hkind => ?_⟩
    rw [ChannelKind.ofName?_eq_some_iff.2 hkind] at hname
    cases hname
  | some kind =>
    have hkind := ChannelKind.ofName?_eq_some_iff.1 hname
    simp only [addConfigured, hname]
    split
    · rename_i henabled
      cases hchannel : kind.channel t (withDryRun dryRun settings) with
      | error fault => exact ⟨_, _, rfl, .failed hkind henabled hchannel⟩
      | ok channel => exact ⟨_, _, rfl, .registered hkind henabled hchannel⟩
    · rename_i hdisabled
      exact ⟨_, _, rfl, .passed fun _ _ => Bool.eq_false_iff.2 hdisabled⟩

/-- An entry that enables its channel is the last one so far. -/
theorem Adds.holds {name : String} {settings : ChannelSettings}
    {before : List (String × ChannelSettings)} (h : Adds t dryRun r name settings (.returned r'))
    (hr : ∀ kind, Holds t dryRun r kind (lastEnabled kind before)) (kind : ChannelKind) :
    Holds t dryRun r' kind (lastEnabled kind (before ++ [(name, settings)])) := by
  rw [lastEnabled_snoc]
  cases h with
  | passed h =>
    have hnot : ¬(Text.lower name = kind.name ∧ isEnabled settings = true) := by
      rintro ⟨hname, henabled⟩
      rw [h kind hname] at henabled
      cases henabled
    rw [if_neg hnot]
    exact hr kind
  | @registered kind' _ hname henabled hchannel =>
    by_cases hsame : Text.lower name = kind.name
    · obtain rfl := ChannelKind.eq_of_name_eq (hname.symm.trans hsame)
      rw [if_pos ⟨hname, henabled⟩]
      exact .insert_same hname hchannel
    · rw [if_neg fun hboth => hsame hboth.1]
      exact (hr kind).insert_other hsame

/-! ### All entries -/

/-- Settings by name as values. -/
def objects (configured : List (String × ChannelSettings)) : List (String × Json) :=
  configured.map fun (name, settings) => (name, .obj settings)

/-- The fault is that of a channel which an entry enables and which cannot be built. -/
def Unbuildable (t : Transport ω) (dryRun : Bool) (configured : List (String × ChannelSettings))
    (fault : Fault) : Prop :=
  ∃ name settings kind, (name, settings) ∈ configured ∧ Text.lower name = kind.name ∧
    isEnabled settings = true ∧
    ChannelKind.channel t (withDryRun dryRun settings) kind = .error fault

-- By induction on the entries that are left; `before` are those that were worked off.
theorem addAll_objects (configured : List (String × ChannelSettings)) :
    ∀ {before : List (String × ChannelSettings)} {r : Registry ω},
      (∀ kind, Holds t dryRun r kind (lastEnabled kind before)) → ∀ w,
        (∃ r' effects, addAll t dryRun r (objects configured) w = ⟨.returned r', effects, w⟩ ∧
          ∀ kind, Holds t dryRun r' kind (lastEnabled kind (before ++ configured))) ∨
        ∃ fault effects, addAll t dryRun r (objects configured) w = ⟨.failed fault, effects, w⟩ ∧
          Unbuildable t dryRun configured fault := by
  induction configured with
  | nil =>
    intro before r hr w
    rw [List.append_nil]
    exact .inl ⟨r, [], rfl, hr⟩
  | cons entry configured ih =>
    obtain ⟨name, settings⟩ := entry
    intro before r hr w
    have hunfold : addAll t dryRun r (objects ((name, settings) :: configured))
        = addConfigured t dryRun r name (.obj settings) >>= fun r =>
          addAll t dryRun r (objects configured) := rfl
    obtain ⟨ending, effects, hrun, hadds⟩ := adds_addConfigured t dryRun r name settings w
    cases ending with
    | returned r' =>
      rw [hunfold, Call.bind_of_returned hrun, List.append_cons]
      rcases ih (hadds.holds hr) w with ⟨r'', effects', hrest, hholds⟩ | ⟨fault, effects', hrest, h⟩
      · rw [hrest]
        exact .inl ⟨r'', _, rfl, hholds⟩
      · obtain ⟨name', settings', kind, hmem, h⟩ := h
        rw [hrest]
        exact .inr ⟨fault, _, rfl, name', settings', kind, List.mem_cons_of_mem _ hmem, h⟩
    | failed fault =>
      rw [hunfold, Call.bind_of_failed hrun]
      obtain _ | _ | ⟨hname, henabled, hchannel⟩ := hadds
      exact .inr ⟨fault, _, rfl, name, settings, _, List.mem_cons_self, hname, henabled, hchannel⟩
    | hanging => cases hadds

/-- Settings give a registry in which each kind has the last entry that means and enables it, or the
fault of a channel that cannot be built. -/
theorem ofSettings_objects (t : Transport ω) (dryRun : Bool)
    (configured : List (String × ChannelSettings)) (w : ω) :
    (∃ r effects, ofSettings t (objects configured) dryRun w = ⟨.returned r, effects, w⟩ ∧
        ∀ kind, Holds t dryRun r kind (lastEnabled kind configured)) ∨
      ∃ fault effects, ofSettings t (objects configured) dryRun w = ⟨.failed fault, effects, w⟩ ∧
        Unbuildable t dryRun configured fault := by
  have hempty : ∀ kind, Holds t dryRun empty kind (lastEnabled kind []) := holds_empty
  rcases addAll_objects configured hempty w with ⟨r, effects, hrun, hholds⟩ | ⟨fault, effects, hrun, h⟩
  · rw [ofSettings, Call.bind_of_returned hrun]
    exact .inl ⟨r, _, rfl, hholds⟩
  · rw [ofSettings, Call.bind_of_failed hrun]
    exact .inr ⟨fault, _, rfl, h⟩

end Registry

end RowAlert
