/-!
# RowAlert.Text.Blank

Which characters are **blank**, and the trimming that follows from it.

Condition texts, cells and header names agree on one class of blanks: the characters with the
White_Space property together with the four information separators U+001C to U+001F. One predicate
(`isBlank`) therefore decides what a lexer skips, what trimming removes and which lines of a data
file are empty. Only a numeral is stricter: information separators around it are no blanks.
-/

namespace RowAlert.Text

/-- The 29 blank characters: white space, and the information separators U+001C to U+001F. -/
def isBlank (c : Char) : Bool :=
  let n := c.toNat
  (9 ≤ n && n ≤ 13) || (28 ≤ n && n ≤ 32) || n == 0x85 || n == 0xA0 || n == 0x1680
    || (0x2000 ≤ n && n ≤ 0x200A) || n == 0x2028 || n == 0x2029 || n == 0x202F || n == 0x205F
    || n == 0x3000

/-- A text without any character that is not blank; the empty text is one. -/
def allBlank (cs : List Char) : Bool := cs.all isBlank

/-- Drops the blanks at the front. -/
def trimStart (cs : List Char) : List Char := cs.dropWhile isBlank

/-- Drops the blanks at the back. -/
def trimEnd (cs : List Char) : List Char := (trimStart cs.reverse).reverse

/-- Drops the blanks at both ends. -/
def trim (cs : List Char) : List Char := trimEnd (trimStart cs)

/-- `trim` on strings. -/
def trimmed (s : String) : String := String.ofList (trim s.toList)

/-- Every character that core calls white space is blank. -/
theorem isBlank_of_isWhitespace {c : Char} (h : c.isWhitespace = true) : isBlank c = true := by
  have hc : c = ' ' ∨ c = '\t' ∨ c = '\r' ∨ c = '\n' := by
    simpa [Char.isWhitespace, or_assoc] using h
  rcases hc with rfl | rfl | rfl | rfl <;> decide

@[simp] theorem allBlank_nil : allBlank [] = true := rfl

theorem allBlank_cons (c : Char) (cs : List Char) :
    allBlank (c :: cs) = (isBlank c && allBlank cs) := rfl

theorem allBlank_append (cs ds : List Char) :
    allBlank (cs ++ ds) = (allBlank cs && allBlank ds) := by
  simp [allBlank]

theorem trimStart_eq_nil_iff {cs : List Char} : trimStart cs = [] ↔ allBlank cs = true := by
  induction cs with
  | nil => simp [trimStart, allBlank]
  | cons c cs ih =>
    by_cases h : isBlank c = true
    · simp_all [trimStart, allBlank]
    · simp [trimStart, allBlank, h]

theorem trim_eq_nil_iff {cs : List Char} : trim cs = [] ↔ allBlank cs = true := by
  have hstart : allBlank (trimStart cs) = allBlank cs := by
    have hsplit : allBlank (cs.takeWhile isBlank ++ trimStart cs) = allBlank cs := by
      rw [trimStart, List.takeWhile_append_dropWhile]
    have hfront : allBlank (cs.takeWhile isBlank) = true := List.all_takeWhile
    rw [← hsplit, allBlank_append, hfront, Bool.true_and]
  rw [trim, trimEnd, List.reverse_eq_nil_iff, trimStart_eq_nil_iff, allBlank, List.all_reverse]
  exact Bool.coe_iff_coe.2 hstart

theorem trimmed_eq_empty_iff {s : String} : trimmed s = "" ↔ allBlank s.toList = true := by
  rw [trimmed, String.ofList_eq_empty_iff, trim_eq_nil_iff]

end RowAlert.Text
