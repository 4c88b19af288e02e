import Mathlib.Data.List.Forall2
import RowAlert.Loading
import RowAlert.Proofs.Except
/-!
# RowAlert.Proofs.RuleFile

**What a rule file holds, and what is said of one that holds no rules.**

A rule file is a list of entries with channel settings beside it (`RuleFile.Shape`), and its rules are
what the entries describe, in order. It is taken as a whole: there are rules if and only if every entry
describes one and no id comes twice. Otherwise the fault is about the first entry that is to blame
(`RuleFile.Offence`), by induction on the entries with the ids seen so far. What a condition says is not
looked at, so every text may stand for it.
-/

namespace RowAlert

/-! ### Fields -/

namespace Validation

variable {α : Type} {fields : List (String × Json)} {name : String} {read : Json → Except Problem α}
  {a : α}

theorem required_eq_ok_iff : required fields name read = .ok a ↔
    ∃ value, Entries.get? fields name = some value ∧ read value = .ok a := by
  unfold required
  cases Entries.get? fields name with
  | none => simp
  | some value => cases hread : read value <;> simp [Except.mapError, hread]

theorem optional_eq_ok_iff {default : α} : optional fields name read default = .ok a ↔
    match Entries.get? fields name with
    | some value => read value = .ok a
    | none => a = default := by
  unfold optional
  cases Entries.get? fields name with
  | none => simp [eq_comm]
  | some value => cases hread : read value <;> simp [Except.mapError, hread]

theorem problem_eq_nil_iff {x : Except FieldProblem α} : problem x = [] ↔ ∃ a, x = .ok a := by
  cases x <;> simp [problem]

/-- A problem names its field. -/
theorem field_problem_required (fields : List (String × Json)) (name : String)
    (read : Json → Except Problem α) :
    ((problem (required fields name read)).map FieldProblem.field).Sublist [name] := by
  unfold required
  cases Entries.get? fields name with
  | none => exact List.Sublist.refl _
  | some value => cases hread : read value <;> simp [problem, Except.mapError, hread]

/-- A problem names its field. -/
theorem field_problem_optional (fields : List (String × Json)) (name : String)
    (read : Json → Except Problem α) (default : α) :
    ((problem (optional fields name read default)).map FieldProblem.field).Sublist [name] := by
  unfold optional
  cases Entries.get? fields name with
  | none => exact List.nil_sublist _
  | some value => cases hread : read value <;> simp [problem, Except.mapError, hread]

theorem required_integer_iff {i : Int} :
    required fields name integer = .ok i ↔ Entries.get? fields name = some (.int i) := by
  rw [required_eq_ok_iff]
  constructor
  · rintro ⟨value, hget, hread⟩
    cases value with
    | int j => rw [hget, Except.ok.inj hread]
    | _ => cases hread
  · intro hget
    exact ⟨_, hget, rfl⟩

theorem required_string_iff {s : String} :
    required fields name string = .ok s ↔ Entries.get? fields name = some (.str s) := by
  rw [required_eq_ok_iff]
  constructor
  · rintro ⟨value, hget, hread⟩
    cases value with
    | str text => rw [hget, Except.ok.inj hread]
    | _ => cases hread
  · intro hget
    exact ⟨_, hget, rfl⟩

theorem required_nonemptyString_iff {s : String} :
    required fields name nonemptyString = .ok s ↔
      Entries.get? fields name = some (.str s) ∧ s ≠ "" := by
  rw [required_eq_ok_iff]
  constructor
  · rintro ⟨value, hget, hread⟩
    cases value with
    | str text =>
      rw [nonemptyString] at hread
      split at hread
      · cases hread
      · obtain rfl := Except.ok.inj hread
        exact ⟨hget, ‹_›⟩
    | _ => cases hread
  · rintro ⟨hget, hne⟩
    exact ⟨_, hget, if_neg hne⟩

end Validation

namespace Rule

/-- The fields of an object are those of a rule: all but whether it is enabled are there as they are,
and a rule is enabled unless it says something else. -/
structure IsIn (rule : Rule) (fields : List (String × Json)) : Prop where
  id : Entries.get? fields "id" = some (.int rule.id)
  channel : Entries.get? fields "channel" = some (.str rule.channel)
  channel_ne : rule.channel ≠ ""
  condition : Entries.get? fields "condition" = some (.str rule.condition)
  message : Entries.get? fields "message" = some (.str rule.message)
  enabled : match Entries.get? fields "enabled" with
    | some value => Validation.boolean value = .ok rule.enabled
    | none => rule.enabled = true

variable {fields : List (String × Json)} {rule : Rule}

/-- An object is read as a rule exactly if its fields are those of the rule. -/
theorem ofFields_eq_ok_iff : ofFields fields = .ok rule ↔ rule.IsIn fields := by
  constructor
  · intro h
    unfold ofFields at h
    dsimp only at h
    split at h
    · rename_i hid hchannel hcondition hmessage henabled
      obtain rfl := Except.ok.inj h
      obtain ⟨hchannel, hne⟩ := Validation.required_nonemptyString_iff.1 hchannel
      exact ⟨Validation.required_integer_iff.1 hid, hchannel, hne,
        Validation.required_string_iff.1 hcondition, Validation.required_string_iff.1 hmessage,
        Validation.optional_eq_ok_iff.1 henabled⟩
    · cases h
  · intro h
    unfold ofFields
    rw [Validation.required_integer_iff.2 h.id,
      Validation.required_nonemptyString_iff.2 ⟨h.channel, h.channel_ne⟩,
      Validation.required_string_iff.2 h.condition, Validation.required_string_iff.2 h.message,
      Validation.optional_eq_ok_iff.2 h.enabled]

/-- What is wrong with an object is told by field, in the order of the fields, and it is something. -/
theorem problems_of_ofFields {problems : List FieldProblem} (h : ofFields fields = .error problems) :
    problems ≠ [] ∧ (problems.map FieldProblem.field).Sublist
      ["id", "channel", "condition", "message", "enabled"] := by
  unfold ofFields at h
  dsimp only at h
  split at h
  · cases h
  · rename_i hnot
    obtain rfl := Except.error.inj h
    constructor
    · intro hnil
      simp only [List.append_eq_nil_iff, Validation.problem_eq_nil_iff] at hnil
      obtain ⟨⟨⟨⟨⟨_, hid⟩, _, hchannel⟩, _, hcondition⟩, _, hmessage⟩, _, henabled⟩ := hnil
      exact hnot _ _ _ _ _ hid hchannel hcondition hmessage henabled
    · simp only [List.map_append]
      exact ((((Validation.field_problem_required _ _ _).append
        (Validation.field_problem_required _ _ _)).append
        (Validation.field_problem_required _ _ _)).append
        (Validation.field_problem_required _ _ _)).append (Validation.field_problem_optional _ _ _ _)

end Rule

namespace RuleFile

/-! ### Entries -/

/-- An entry of a rule file describes a rule. -/
inductive Describes : Json → Rule → Prop
  | object {fields : List (String × Json)} {rule : Rule} (h : rule.IsIn fields) :
      Describes (.obj fields) rule

/-- Why the entry at a position is to blame, the entries before it having these ids: it is no object,
it describes no rule, or its rule has an id that was there before. -/
inductive Offence (position : Nat) (seen : List Int) : Json → RuleFileFault → Prop
  | notObject {entry : Json} (h : ∀ fields, entry ≠ .obj fields) :
      Offence position seen entry (.entryNotObject position)
  | invalid {fields : List (String × Json)} {problems : List FieldProblem}
      (h : ∀ rule : Rule, ¬rule.IsIn fields) (hproblems : Rule.ofFields fields = .error problems) :
      Offence position seen (.obj fields) (.invalidRule position problems)
  | duplicate {fields : List (String × Json)} {rule : Rule} (h : rule.IsIn fields)
      (hseen : rule.id ∈ seen) : Offence position seen (.obj fields) (.duplicateId rule.id)

variable {position : Nat} {seen : List Int} {entry : Json} {entries : List Json} {rule : Rule}
  {rules : List Rule} {fault : RuleFileFault}

/-- An entry describes a rule with a new id, or it is to blame. -/
theorem describes_or_offence (position : Nat) (seen : List Int) (entry : Json) :
    (∃ rule, Describes entry rule ∧ rule.id ∉ seen) ∨ ∃ fault, Offence position seen entry fault := by
  cases entry with
  | obj fields =>
    cases hfields : Rule.ofFields fields with
    | error problems =>
      have hnone : ∀ rule : Rule, ¬rule.IsIn fields := by
        intro rule h
        rw [Rule.ofFields_eq_ok_iff.2 h] at hfields
        cases hfields
      exact .inr ⟨_, .invalid hnone hfields⟩
    | ok rule =>
      have hrule := Rule.ofFields_eq_ok_iff.1 hfields
      by_cases hseen : rule.id ∈ seen
      · exact .inr ⟨_, .duplicate hrule hseen⟩
      · exact .inl ⟨rule, .object hrule, hseen⟩
  | _ => exact .inr ⟨_, .notObject (by simp)⟩

theorem rulesFrom_of_describes (h : Describes entry rule) (hnew : rule.id ∉ seen)
    (position : Nat) (entries : List Json) :
    rulesFrom position seen (entry :: entries)
      = (rulesFrom (position + 1) (rule.id :: seen) entries).map (rule :: ·) := by
  obtain ⟨hrule⟩ := h
  simp only [rulesFrom, Rule.ofFields_eq_ok_iff.2 hrule, hnew, if_false]

theorem rulesFrom_of_offence (h : Offence position seen entry fault) (entries : List Json) :
    rulesFrom position seen (entry :: entries) = .error fault := by
  cases h with
  | notObject hentry =>
    cases entry with
    | obj fields => exact absurd rfl (hentry fields)
    | _ => rfl
  | invalid hnone hproblems => simp only [rulesFrom, hproblems]
  | duplicate hrule hseen => simp only [rulesFrom, Rule.ofFields_eq_ok_iff.2 hrule, hseen, if_true]

/-- Only which ids were there before matters. -/
theorem Offence.congr {other : List Int} (h : Offence position seen entry fault)
    (hids : ∀ id, id ∈ seen ↔ id ∈ other) : Offence position other entry fault := by
  cases h with
  | notObject hentry => exact .notObject hentry
  | invalid hnone hproblems => exact .invalid hnone hproblems
  | duplicate hrule hseen => exact .duplicate hrule ((hids _).1 hseen)

/-- Entries describe rules one by one, each with an id that is new. -/
inductive Fresh : List Int → List Json → List Rule → Prop
  | nil (seen : List Int) : Fresh seen [] []
  | cons {seen : List Int} {entry : Json} {entries : List Json} {rule : Rule} {rules : List Rule}
      (h : Describes entry rule) (hnew : rule.id ∉ seen)
      (hrest : Fresh (rule.id :: seen) entries rules) :
      Fresh seen (entry :: entries) (rule :: rules)

theorem fresh_iff : Fresh seen entries rules ↔
    List.Forall₂ Describes entries rules ∧ (rules.map Rule.id).Nodup ∧
      ∀ rule ∈ rules, rule.id ∉ seen := by
  constructor
  · intro h
    induction h with
    | nil seen => exact ⟨.nil, List.nodup_nil, by simp⟩
    | cons hentry hnew hrest ih =>
      obtain ⟨hentries, hnodup, hrules⟩ := ih
      refine ⟨.cons hentry hentries, List.nodup_cons.2 ⟨fun hmem => ?_, hnodup⟩,
        List.forall_mem_cons.2 ⟨hnew, fun later hlater hseen => ?_⟩⟩
      · obtain ⟨later, hlater, heq⟩ := List.mem_map.1 hmem
        exact hrules later hlater (heq ▸ List.mem_cons_self)
      · exact hrules later hlater (List.mem_cons_of_mem _ hseen)
  · rintro ⟨hentries, hnodup, hnew⟩
    induction hentries generalizing seen with
    | nil => exact .nil seen
    | cons hentry hentries ih =>
      obtain ⟨hfirst, hnodup⟩ := List.nodup_cons.1 hnodup
      obtain ⟨hrule, hrules⟩ := List.forall_mem_cons.1 hnew
      refine .cons hentry hrule (ih hnodup fun later hlater hseen => ?_)
      rcases List.mem_cons.1 hseen with heq | hseen
      · exact hfirst (heq ▸ List.mem_map_of_mem hlater)
      · exact hrules later hlater hseen

/-! ### Rules of entries -/

theorem rulesFrom_of_fresh (h : Fresh seen entries rules) (position : Nat) :
    rulesFrom position seen entries = .ok rules := by
  induction h generalizing position with
  | nil seen => rfl
  | cons hentry hnew hrest ih =>
    rw [rulesFrom_of_describes hentry hnew, ih]
    rfl

/-- The entry that is to blame is what the fault is about, if those before it are not. -/
theorem rulesFrom_of_fresh_append {before behind : List Json} {earlier : List Rule}
    (h : Fresh seen before earlier)
    (hfault : Offence (position + before.length) ((earlier.map Rule.id).reverse ++ seen) entry fault) :
    rulesFrom position seen (before ++ entry :: behind) = .error fault := by
  induction h generalizing position with
  | nil seen => exact rulesFrom_of_offence hfault behind
  | cons hentry hnew hrest ih =>
    rw [List.cons_append, rulesFrom_of_describes hentry hnew, ih]
    · rfl
    · simpa [Nat.add_assoc, Nat.add_comm 1] using hfault

/-- There are rules, or one entry is to blame and those before it are not. -/
theorem fresh_or_offence (position : Nat) (seen : List Int) (entries : List Json) :
    (∃ rules, Fresh seen entries rules) ∨
      ∃ before entry behind earlier fault, entries = before ++ entry :: behind ∧
        Fresh seen before earlier ∧
        Offence (position + before.length) ((earlier.map Rule.id).reverse ++ seen) entry fault := by
  induction entries generalizing position seen with
  | nil => exact .inl ⟨[], .nil seen⟩
  | cons entry entries ih =>
    rcases describes_or_offence position seen entry with ⟨rule, hrule, hnew⟩ | ⟨fault, hfault⟩
    · rcases ih (position + 1) (rule.id :: seen) with ⟨rules, hrules⟩ |
        ⟨before, later, behind, earlier, fault, rfl, hearlier, hfault⟩
      · exact .inl ⟨rule :: rules, .cons hrule hnew hrules⟩
      · refine .inr ⟨entry :: before, later, behind, rule :: earlier, fault, rfl,
          .cons hrule hnew hearlier, ?_⟩
        simpa [Nat.add_assoc, Nat.add_comm 1] using hfault
    · exact .inr ⟨[], entry, entries, [], fault, rfl, .nil seen, hfault⟩

/-- Entries and the rules that they describe: one each, in order, with different ids. -/
structure Lists (entries : List Json) (rules : List Rule) : Prop where
  described : List.Forall₂ Describes entries rules
  nodup : (rules.map Rule.id).Nodup

theorem fresh_nil_iff : Fresh [] entries rules ↔ Lists entries rules := by
  rw [fresh_iff]
  constructor
  · rintro ⟨hentries, hnodup, -⟩
    exact ⟨hentries, hnodup⟩
  · rintro ⟨hentries, hnodup⟩
    exact ⟨hentries, hnodup, by simp⟩

theorem rulesFrom_eq_ok_iff : rulesFrom 0 [] entries = .ok rules ↔ Lists entries rules := by
  constructor
  · intro h
    rcases fresh_or_offence 0 [] entries with ⟨found, hfound⟩ |
      ⟨before, entry, behind, earlier, fault, rfl, hearlier, hfault⟩
    · rw [rulesFrom_of_fresh hfound] at h
      exact fresh_nil_iff.1 (Except.ok.inj h ▸ hfound)
    · rw [rulesFrom_of_fresh_append hearlier hfault] at h
      cases h
  · intro h
    exact rulesFrom_of_fresh (fresh_nil_iff.2 h) 0

/-- The first entry that is to blame: those before it describe rules with different ids. -/
def BlamesFirst (entries : List Json) (fault : RuleFileFault) : Prop :=
  ∃ before entry behind earlier, entries = before ++ entry :: behind ∧ Lists before earlier ∧
    Offence before.length (earlier.map Rule.id) entry fault

theorem rulesFrom_eq_error_iff :
    rulesFrom 0 [] entries = .error fault ↔ BlamesFirst entries fault := by
  constructor
  · intro h
    rcases fresh_or_offence 0 [] entries with ⟨found, hfound⟩ |
      ⟨before, entry, behind, earlier, first, rfl, hearlier, hfirst⟩
    · rw [rulesFrom_of_fresh hfound] at h
      cases h
    · rw [rulesFrom_of_fresh_append hearlier hfirst] at h
      obtain rfl := Except.error.inj h
      rw [Nat.zero_add] at hfirst
      exact ⟨before, entry, behind, earlier, rfl, fresh_nil_iff.1 hearlier,
        hfirst.congr fun id => by simp⟩
  · rintro ⟨before, entry, behind, earlier, rfl, hearlier, hfault⟩
    refine rulesFrom_of_fresh_append (fresh_nil_iff.2 hearlier) ?_
    rw [Nat.zero_add]
    exact hfault.congr fun id => by simp

/-! ### The outer shape -/

/-- A value is an array of entries, or an object with such an array and perhaps channel settings. -/
inductive Shape : Json → List Json → List (String × Json) → Prop
  | array (entries : List Json) : Shape (.arr entries) entries []
  | object {fields channels : List (String × Json)} {entries : List Json}
      (hchannels : Entries.get? fields "channels" = some (.obj channels))
      (hrules : Entries.get? fields "rules" = some (.arr entries)) :
      Shape (.obj fields) entries channels
  | bare {fields : List (String × Json)} {entries : List Json}
      (hchannels : Entries.get? fields "channels" = none)
      (hrules : Entries.get? fields "rules" = some (.arr entries)) : Shape (.obj fields) entries []

variable {value : Json} {channels : List (String × Json)}

theorem ofJson_of_shape (h : Shape value entries channels) :
    ofJson value = (rulesFrom 0 [] entries).map (⟨·, channels⟩) := by
  cases h with
  | array => rfl
  | object hchannels hrules => simp only [ofJson, hchannels, hrules, Option.getD_some, ofEntries]
  | bare hchannels hrules => simp only [ofJson, hchannels, hrules, Option.getD_none, ofEntries]

theorem entries_or_error (channels : List (String × Json)) (rules : Option Json) :
    (∃ entries, rules = some (.arr entries)) ∨ ofEntries channels rules = .error .rulesNotArray := by
  unfold ofEntries
  split
  · exact .inl ⟨_, rfl⟩
  · exact .inr rfl

/-- A value has the outer shape of a rule file, or is refused for not having it. -/
theorem shape_or_error (value : Json) :
    (∃ entries channels, Shape value entries channels) ∨
      ofJson value = .error .channelsNotObject ∨ ofJson value = .error .rulesNotArray := by
  cases value with
  | arr entries => exact .inl ⟨entries, [], .array entries⟩
  | obj fields =>
    cases hchannels : Entries.get? fields "channels" with
    | none =>
      rcases entries_or_error [] (Entries.get? fields "rules") with ⟨entries, hrules⟩ | hrules
      · exact .inl ⟨entries, [], .bare hchannels hrules⟩
      · refine .inr (.inr ?_)
        simp only [ofJson, hchannels, Option.getD_none, hrules]
    | some settings =>
      cases settings with
      | obj channels =>
        rcases entries_or_error channels (Entries.get? fields "rules") with ⟨entries, hrules⟩ | hrules
        · exact .inl ⟨entries, channels, .object hchannels hrules⟩
        · refine .inr (.inr ?_)
          simp only [ofJson, hchannels, Option.getD_some, hrules]
      | _ =>
        refine .inr (.inl ?_)
        simp only [ofJson, hchannels, Option.getD_some]
  | _ => exact .inr (.inr rfl)

theorem ofJson_eq_ok_of_shape {file : RuleFile} (h : Shape value entries channels) :
    ofJson value = .ok file ↔ channels = file.channels ∧ Lists entries file.rules := by
  rw [ofJson_of_shape h, ← rulesFrom_eq_ok_iff]
  obtain ⟨rules, settings⟩ := file
  cases rulesFrom 0 [] entries with
  | error fault => simp [Except.map]
  | ok found => simp [Except.map, and_comm]

theorem ofJson_eq_error_of_shape (h : Shape value entries channels) :
    ofJson value = .error fault ↔ BlamesFirst entries fault := by
  rw [ofJson_of_shape h, ← rulesFrom_eq_error_iff]
  cases rulesFrom 0 [] entries <;> simp [Except.map]

theorem ofJson_eq_ok_iff {file : RuleFile} : ofJson value = .ok file ↔
    ∃ entries, Shape value entries file.channels ∧ Lists entries file.rules := by
  constructor
  · intro h
    rcases shape_or_error value with ⟨entries, channels, hshape⟩ | hrefused | hrefused
    · obtain ⟨rfl, hlists⟩ := (ofJson_eq_ok_of_shape hshape).1 h
      exact ⟨entries, hshape, hlists⟩
    · rw [h] at hrefused
      cases hrefused
    · rw [h] at hrefused
      cases hrefused
  · rintro ⟨entries, hshape, hlists⟩
    exact (ofJson_eq_ok_of_shape hshape).2 ⟨rfl, hlists⟩

/-! ### Conditions -/

end RuleFile

/-- The entry with another text for its condition. -/
def Json.withCondition (text : String) : Json → Json
  | obj fields => obj (Entries.put fields "condition" (str text))
  | value => value

/-- The rule with another text for its condition. -/
def Rule.withCondition (text : String) (rule : Rule) : Rule := { rule with condition := text }

theorem Rule.IsIn.withCondition {rule : Rule} {fields : List (String × Json)} (h : rule.IsIn fields)
    (text : String) :
    (rule.withCondition text).IsIn (Entries.put fields "condition" (.str text)) := by
  have hother : ∀ name, "condition" ≠ name →
      Entries.get? (Entries.put fields "condition" (.str text)) name = Entries.get? fields name := by
    intro name hname
    rw [Entries.get?_put, if_neg hname]
  constructor
  case condition => rw [Entries.get?_put, if_pos rfl]; rfl
  case channel_ne => exact h.channel_ne
  case id => rw [hother _ (by decide)]; exact h.id
  case channel => rw [hother _ (by decide)]; exact h.channel
  case message => rw [hother _ (by decide)]; exact h.message
  case enabled => rw [hother _ (by decide)]; exact h.enabled

namespace RuleFile

/-- Entries describe rules whatever their conditions say. -/
theorem Lists.withConditions {entries : List Json} {rules : List Rule} (h : Lists entries rules)
    (texts : Nat → String) :
    Lists (entries.mapIdx fun i entry => entry.withCondition (texts i))
      (rules.mapIdx fun i rule => rule.withCondition (texts i)) := by
  have hids : (rules.mapIdx fun i rule => rule.withCondition (texts i)).map Rule.id
      = rules.map Rule.id :=
    List.ext_getElem (by simp) (by simp [Rule.withCondition])
  refine ⟨?_, hids ▸ h.nodup⟩
  have hdescribed := h.described
  clear h hids
  induction hdescribed generalizing texts with
  | nil => exact .nil
  | cons hentry hrest ih =>
    rw [List.mapIdx_cons, List.mapIdx_cons]
    obtain ⟨hrule⟩ := hentry
    exact .cons (.object (hrule.withCondition _)) (ih fun i => texts (i + 1))

/-! ### All or nothing -/

/-- **A rule file is taken as a whole, or the first entry that is to blame is named.** A value is one
exactly if it has the outer shape of one and its entries describe rules with different ids; the rules are
then those of the entries, in order, and the channel settings are those that are given. Of the right
shape, it is refused exactly for the first entry that is no object, describes no rule or repeats an id;
otherwise it is refused for its shape. Every refusal is a load error. What the conditions say does not
matter: the same file with other texts for them, whatever these are, is taken too. -/
theorem ofJson_all_or_nothing (value : Json) :
    (∀ file, ofJson value = .ok file ↔
        ∃ entries, Shape value entries file.channels ∧ Lists entries file.rules) ∧
      (∀ entries channels, Shape value entries channels →
        ∀ fault, ofJson value = .error fault ↔ BlamesFirst entries fault) ∧
      ((¬∃ entries channels, Shape value entries channels) →
        ofJson value = .error .channelsNotObject ∨ ofJson value = .error .rulesNotArray) ∧
      (∀ fault, ofJson value = .error fault → (RuleLoadFault.content fault).unreported? = none) ∧
      ∀ file entries, ofJson value = .ok file → Shape value entries file.channels →
        ∀ (texts : Nat → String) other,
          Shape other (entries.mapIdx fun i entry => entry.withCondition (texts i)) file.channels →
          ofJson other
            = .ok ⟨file.rules.mapIdx fun i rule => rule.withCondition (texts i), file.channels⟩ := by
  refine ⟨fun file => ofJson_eq_ok_iff, fun entries channels h fault => ofJson_eq_error_of_shape h,
    (shape_or_error value).resolve_left, fun fault _ => rfl, ?_⟩
  intro file entries hfile hshape texts other hother
  have hlists := ((ofJson_eq_ok_of_shape hshape).1 hfile).2
  exact (ofJson_eq_ok_of_shape hother).2 ⟨rfl, hlists.withConditions texts⟩

/-- A condition that is none is taken, and the third entry is the first one to blame. -/
theorem ofJson_all_or_nothing_repeated :
    let fields (id : Int) (condition : String) : List (String × Json) :=
      [("id", .int id), ("channel", .str "ops"), ("condition", .str condition), ("message", .str "m")]
    ofJson (.obj [("rules", .arr [.obj (fields 1 "(("), .obj (fields 2 "a")])])
        = .ok ⟨[⟨1, "ops", "((", "m", true⟩, ⟨2, "ops", "a", "m", true⟩], []⟩ ∧
      ofJson (.arr [.obj (fields 1 "(("), .obj (fields 2 "a"), .obj (fields 1 "b"), .null])
        = .error (.duplicateId 1) := by
  intro fields
  have hin (id : Int) (condition : String) :
      Rule.IsIn ⟨id, "ops", condition, "m", true⟩ (fields id condition) :=
    ⟨rfl, rfl, show "ops" ≠ "" by decide, rfl, rfl, rfl⟩
  have hlists : Lists [.obj (fields 1 "(("), .obj (fields 2 "a")]
      [⟨1, "ops", "((", "m", true⟩, ⟨2, "ops", "a", "m", true⟩] :=
    ⟨.cons (.object (hin 1 "((")) (.cons (.object (hin 2 "a")) .nil), by decide⟩
  constructor
  · exact ((ofJson_all_or_nothing _).1 _).2 ⟨_, .bare rfl rfl, hlists⟩
  · refine ((ofJson_all_or_nothing _).2.1 _ _ (.array _) _).2 ?_
    exact ⟨_, _, [.null], _, rfl, hlists, .duplicate (hin 1 "b") (by decide)⟩

end RuleFile

end RowAlert
