/-!
# RowAlert.Text.Split

Splitting a text at a separator and joining parts back.

The separator is any non-empty text and is found from the left without overlaps; a text with `n`
separators has `n + 1` parts, some of them perhaps empty.
-/

namespace RowAlert.Text

/-- What follows `sep` at the front of a text, if it stands there. -/
def dropFront? : List Char → List Char → Option (List Char)
  | [], cs => some cs
  | _ :: _, [] => none
  | s :: sep, c :: cs => if s = c then dropFront? sep cs else none

/-- Walks a text with `skip` characters of a separator still to pass; the result is never empty. -/
def splitFrom (sep : List Char) : Nat → List Char → List (List Char)
  | _, [] => [[]]
  | skip + 1, _ :: cs => splitFrom sep skip cs
  | 0, c :: cs =>
    if (dropFront? sep (c :: cs)).isSome then [] :: splitFrom sep (sep.length - 1) cs
    else
      match splitFrom sep 0 cs with
      | [] => [[c]]
      | part :: parts => (c :: part) :: parts

/-- The parts of a text between the occurrences of a non-empty separator. -/
def splitOn (sep cs : List Char) : List (List Char) := splitFrom sep 0 cs

/-- Parts with a separator between neighbours. -/
def joinWith (sep : List Char) : List (List Char) → List Char
  | [] => []
  | [part] => part
  | part :: parts => part ++ sep ++ joinWith sep parts

theorem splitFrom_ne_nil (sep : List Char) (skip : Nat) (cs : List Char) :
    splitFrom sep skip cs ≠ [] := by
  induction cs generalizing skip with
  | nil => cases skip <;> simp [splitFrom]
  | cons c cs ih =>
    cases skip with
    | succ n => simpa [splitFrom] using ih n
    | zero =>
      unfold splitFrom
      split
      · simp
      · split <;> simp

/-- A text has at least one part. -/
theorem splitOn_ne_nil (sep cs : List Char) : splitOn sep cs ≠ [] := splitFrom_ne_nil sep 0 cs

end RowAlert.Text
