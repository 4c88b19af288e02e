import RowAlert.Entries
import RowAlert.Text.LetterCase
/-!
# RowAlert.Environment

The **environment** of the program: variables with texts as values.

A variable that is not set has no value, which is not the same as an empty one.
-/

namespace RowAlert

/-- Variables by name. -/
abbrev Environment := Entries String String

namespace Environment

/-- The text of a variable, or a default. -/
def text (env : Environment) (name default : String) : String :=
  (Entries.get? env name).getD default

/-- Is a text the word for true, in any letter case? -/
def isTrue (text : String) : Bool := Text.lower text = "true"

/-- A variable that says yes or no; everything but the word for true says no. -/
def flag (env : Environment) (name : String) (default : Bool) : Bool :=
  ((Entries.get? env name).map isTrue).getD default

end Environment

end RowAlert
