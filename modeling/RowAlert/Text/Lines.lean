/-!
# RowAlert.Text.Lines

Cutting a text into **lines**.

A line ends at any of the line boundaries below, and CR directly followed by LF ends it once. The
end of the last line opens no further line: a text that ends in a line boundary has as many lines as
boundaries, and the empty text has no line at all.
-/

namespace RowAlert.Text

/-- The characters that end a line: LF, VT, FF, CR, the separators U+001C to U+001E, NEL, and the
line and paragraph separators. -/
def isLineEnd (c : Char) : Bool :=
  let n := c.toNat
  (10 ≤ n && n ≤ 13) || (28 ≤ n && n ≤ 30) || n == 0x85 || n == 0x2028 || n == 0x2029

/-- Puts a character in front of the first of some lines, opening a line if there is none. -/
def consLine (c : Char) : List (List Char) → List (List Char)
  | [] => [[c]]
  | line :: rest => (c :: line) :: rest

/-- The lines of a text, without the boundaries that end them. -/
def lines : List Char → List (List Char)
  | [] => []
  | '\r' :: '\n' :: cs => [] :: lines cs
  | c :: cs => if isLineEnd c then [] :: lines cs else consLine c (lines cs)

/-- Takes CR LF, and CR alone, for LF: how the text of a file is read. -/
def normaliseLineEnds : List Char → List Char
  | [] => []
  | '\r' :: '\n' :: cs => '\n' :: normaliseLineEnds cs
  | c :: cs => (if c = '\r' then '\n' else c) :: normaliseLineEnds cs

@[simp] theorem lines_nil : lines [] = [] := by simp [lines]

theorem consLine_ne_nil (c : Char) (ls : List (List Char)) : consLine c ls ≠ [] := by
  cases ls <;> simp [consLine]

end RowAlert.Text
