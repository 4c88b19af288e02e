import RowAlert.Notice
import RowAlert.Row
import RowAlert.Text.Blank
/-!
# RowAlert.Template

**Message templates.**

A template is literal text with placeholders such as `{humidity}`; two equal braces in a row stand
for one. A brace that neither starts a placeholder nor is doubled stands for itself. A placeholder
becomes the cell of its name. What is filled in is never looked at again, so braces in the data are
data.

A name that does not resolve becomes nothing and is reported; it never stops a message.
-/

namespace RowAlert

/-- A part of a template. -/
inductive Piece
  | literal (c : Char)
  /-- A placeholder, by its name without the blanks around it. -/
  | placeholder (name : String)
  deriving DecidableEq

namespace Template

/-- Not a brace. -/
def isPlain (c : Char) : Bool := c ≠ '\x7b' && c ≠ '\x7d'

/-- The text inside the braces of a placeholder whose opening brace came directly before. -/
def body? (cs : List Char) : Option (List Char) :=
  match cs.dropWhile isPlain with
  | '\x7d' :: _ => some (cs.takeWhile isPlain)
  | _ => none

/-- The first piece of a template and how many characters write it. -/
def frontPiece (c : Char) (cs : List Char) : Piece × Nat :=
  if !isPlain c && cs.head? = some c then (.literal c, 2)
  else if c = '\x7b' then
    match body? cs with
    | some body => (.placeholder (String.ofList (Text.trim body)), body.length + 2)
    | none => (.literal c, 1)
  else (.literal c, 1)

/-- The pieces of a template, with `skip` characters of the current piece still to pass. -/
def piecesFrom : Nat → List Char → List Piece
  | _, [] => []
  | skip + 1, _ :: cs => piecesFrom skip cs
  | 0, c :: cs =>
    let (piece, width) := frontPiece c cs
    piece :: piecesFrom (width - 1) cs

/-- The pieces of a template. -/
def pieces (template : String) : List Piece := piecesFrom 0 template.toList

end Template

/-- A message and the placeholders that did not resolve, in order of occurrence. -/
structure Rendered where
  text : String
  missing : List String
  deriving DecidableEq

namespace Rendered

/-- The name under which a template may show the index of the row, unless a cell has that name. -/
def rowIndexName : String := "row_index"

/-- What a placeholder becomes. -/
def resolve? (row : Row) (rowIndex : Option Int) (name : String) : Option String :=
  match row.get? name with
  | some cell => some cell
  | none => if name = rowIndexName then rowIndex.map toString else none

/-- The text that a piece becomes. -/
def textOf (row : Row) (rowIndex : Option Int) : Piece → String
  | .literal c => String.ofList [c]
  | .placeholder name => (resolve? row rowIndex name).getD ""

/-- The name that a piece leaves unresolved. -/
def missingIn (row : Row) (rowIndex : Option Int) : Piece → Option String
  | .literal _ => none
  | .placeholder name => if (resolve? row rowIndex name).isSome then none else some name

/-- Fills a template from a row. -/
def ofTemplate (template : String) (row : Row) (rowIndex : Option Int) : Rendered :=
  let pieces := Template.pieces template
  ⟨String.join (pieces.map (textOf row rowIndex)), pieces.filterMap (missingIn row rowIndex)⟩

/-- The report about placeholders that did not resolve. -/
def notices (r : Rendered) : List Notice :=
  if r.missing.isEmpty then []
  else
    [⟨.warning, .rendering,
      "Unresolved placeholders in message template: " ++ ", ".intercalate r.missing⟩]

end Rendered

end RowAlert
