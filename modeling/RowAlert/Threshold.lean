import RowAlert.Effect
import RowAlert.Fault
import RowAlert.Text.LetterCase
/-!
# RowAlert.Threshold

**Thresholds** on the severity of the notices that are shown.

A threshold is given by name, in any letter case. A name that means nothing is as good as none; two
names mean the layout of notices and the list of layouts, which are no thresholds.
-/

namespace RowAlert.Threshold

/-- The threshold that counts if no other one is given. -/
def default : Nat := Severity.info.rank

/-- The names of thresholds. -/
def names : List (String × Nat) :=
  [("NOTSET", 0), ("DEBUG", 10), ("INFO", 20), ("WARN", 30), ("WARNING", 30), ("ERROR", 40),
    ("CRITICAL", 50), ("FATAL", 50)]

/-- The name of the layout of notices. -/
def layoutName : String := "BASIC_FORMAT"

/-- The layout of notices. -/
def layout : String := "%(levelname)s:%(name)s:%(message)s"

/-- The name of the list of layouts. -/
def layoutsName : String := "_STYLES"

/-- The list of layouts: for each mark of a placeholder, who reads it and the layout of notices in its
manner. -/
def layouts : String :=
  let entry (mark reader written : String) :=
    s!"{Text.quoted mark}: (<class 'logging.{reader}'>, {Text.quoted written})"
  let entries :=
    [entry "%" "PercentStyle" layout,
      entry "\x7b" "StrFormatStyle" "\x7blevelname\x7d:\x7bname\x7d:\x7bmessage\x7d",
      entry "$" "StringTemplateStyle" "$\x7blevelname\x7d:$\x7bname\x7d:$\x7bmessage\x7d"]
  "\x7b" ++ ", ".intercalate entries ++ "\x7d"

/-- The threshold of a name. -/
def ofName (name : String) : Except Fault Nat :=
  let name := Text.upper name
  if name = layoutName then .error (.ofValue s!"Unknown level: {Text.quoted layout}")
  else if name = layoutsName then
    .error (.ofType s!"Level not an integer or a valid string: {layouts}")
  else .ok ((Entries.get? names name).getD default)

/-- Is a notice shown? -/
def shows (threshold : Nat) (n : Notice) : Bool := threshold ≤ n.severity.rank

/-- Is an effect to be seen? All are, except notices below the threshold. -/
def isShown (threshold : Nat) : Effect → Bool
  | .notice n => shows threshold n
  | _ => true

end RowAlert.Threshold
