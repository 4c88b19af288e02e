import RowAlert.Rule
/-!
# RowAlert.RuleFile

**Rule files**: an array of rules, or an object with such an array under `rules` and perhaps the
settings of channels under `channels`.

A file is taken as a whole or not at all. The entries are looked at in order, and the first one that
is no object, is no rule, or repeats the id of an earlier one is what the fault is about. The
settings of channels are not looked into here.
-/

namespace RowAlert

/-- The content of a rule file. -/
structure RuleFile where
  rules : List Rule
  /-- Settings by channel name. -/
  channels : List (String × Json)

/-- Why a JSON value is no rule file. -/
inductive RuleFileFault
  /-- The settings of the channels are no object. -/
  | channelsNotObject
  /-- There is no array of rules. -/
  | rulesNotArray
  /-- The entry at a position is no object. -/
  | entryNotObject (position : Nat)
  | invalidRule (position : Nat) (problems : List FieldProblem)
  | duplicateId (id : Int)
  deriving DecidableEq

namespace RuleFileFault

/-- What the fault is, without the report on single fields. -/
def headline : RuleFileFault → String
  | channelsNotObject => "'channels' must be an object keyed by channel name"
  | rulesNotArray =>
    "Rule configuration must be a JSON array of rules (or an object with a 'rules' array)"
  | entryNotObject position => s!"Rule #{position} must be a JSON object"
  | invalidRule position _ => s!"Rule #{position} is invalid"
  | duplicateId id => s!"Duplicate rule id: {id}"

/-- The heading of a report on the fields of a record. -/
def reportHeading (record : String) (problems : List FieldProblem) : String :=
  let plural := if problems.length = 1 then "" else "s"
  s!"{problems.length} validation error{plural} for {record}"

/-- The wording of a fault. -/
def message (fault : RuleFileFault) : String :=
  match fault with
  | invalidRule _ problems => fault.headline ++ ": " ++ reportHeading "Rule" problems
  | _ => fault.headline

end RuleFileFault

namespace RuleFile

/-- The rules of the entries from `position` on, where `seen` are the ids of the rules before. -/
def rulesFrom (position : Nat) (seen : List Int) : List Json → Except RuleFileFault (List Rule)
  | [] => .ok []
  | entry :: entries =>
    match entry with
    | .obj fields =>
      match Rule.ofFields fields with
      | .error problems => .error (.invalidRule position problems)
      | .ok rule =>
        if rule.id ∈ seen then .error (.duplicateId rule.id)
        else (rulesFrom (position + 1) (rule.id :: seen) entries).map (rule :: ·)
    | _ => .error (.entryNotObject position)

/-- The rule file of an array of entries. -/
def ofEntries (channels : List (String × Json)) : Option Json → Except RuleFileFault RuleFile
  | some (.arr entries) => (rulesFrom 0 [] entries).map (⟨·, channels⟩)
  | _ => .error .rulesNotArray

/-- The rule file that a JSON value describes. -/
def ofJson (value : Json) : Except RuleFileFault RuleFile :=
  match value with
  | .obj fields =>
    match (Entries.get? fields "channels").getD (.obj []) with
    | .obj channels => ofEntries channels (Entries.get? fields "rules")
    | _ => .error .channelsNotObject
  | value => ofEntries [] (some value)

end RuleFile

end RowAlert
