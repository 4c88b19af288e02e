import RowAlert.Proofs.Number.Numeral
import RowAlert.Template
/-!
# RowAlert.Proofs.Rendering

**What a template becomes.**

A template is written segment by segment: a literal text with its braces doubled, or a placeholder
between braces. However literals and placeholders meet, reading the template stays in step with the
segments (`Segment.piecesFrom_source`): behind each segment nothing is left of it, so its last brace is
never taken together with the first one of the next. A template therefore becomes its segments, each
filled on its own, and what is filled in is not read again.
-/

namespace RowAlert

namespace Template

/-- A part of a template as it is written. -/
inductive Segment
  /-- Any text, braces included. -/
  | literal (text : String)
  /-- A placeholder, with what stands between its braces. -/
  | placeholder (inner : String) (plain : ∀ c ∈ inner.toList, isPlain c = true)

namespace Segment

/-- The characters that write a segment. -/
def source : Segment → List Char
  | literal text => text.toList.flatMap fun c => if isPlain c then [c] else [c, c]
  | placeholder inner _ => '\x7b' :: (inner.toList ++ ['\x7d'])

/-- The template of some segments. -/
def template (segments : List Segment) : String := String.ofList (segments.flatMap source)

/-- What a segment becomes: a literal itself; a placeholder the cell of its name, or else the index of
the row if that is its name and the index is known, or else nothing. -/
def filled (row : Row) (rowIndex : Option Int) : Segment → String
  | literal text => text
  | placeholder inner _ =>
    match row.get? (Text.trimmed inner), rowIndex with
    | some cell, _ => cell
    | none, some index => if Text.trimmed inner = "row_index" then toString index else ""
    | none, none => ""

/-- The name of a placeholder that is neither a cell nor the known index of the row. -/
def unresolved? (row : Row) (rowIndex : Option Int) : Segment → Option String
  | literal _ => none
  | placeholder inner _ =>
    if row.has (Text.trimmed inner) || (Text.trimmed inner = "row_index" && rowIndex.isSome) then none
    else some (Text.trimmed inner)

/-! ### Reading stays in step -/

/-- The pieces that a segment is read as. -/
def pieces : Segment → List Piece
  | literal text => text.toList.map .literal
  | placeholder inner _ => [.placeholder (Text.trimmed inner)]

theorem piecesFrom_skip (cs rest : List Char) :
    piecesFrom cs.length (cs ++ rest) = piecesFrom 0 rest := by
  induction cs with
  | nil => rfl
  | cons c cs ih => exact ih

theorem piecesFrom_plain {c : Char} (h : isPlain c = true) (rest : List Char) :
    piecesFrom 0 (c :: rest) = .literal c :: piecesFrom 0 rest := by
  have hbrace : c ≠ '\x7b' := by
    intro heq
    subst heq
    cases h
  simp [piecesFrom, frontPiece, h, hbrace]

/-- A doubled brace is one brace, whatever follows it. -/
theorem piecesFrom_doubled {c : Char} (h : isPlain c = false) (rest : List Char) :
    piecesFrom 0 (c :: c :: rest) = .literal c :: piecesFrom 0 rest := by
  simp [piecesFrom, frontPiece, h]

theorem body?_run {inner : List Char} (h : ∀ c ∈ inner, isPlain c = true) (rest : List Char) :
    body? (inner ++ '\x7d' :: rest) = some inner := by
  have hstops : Text.StopsAt isPlain ('\x7d' :: rest) := Text.stopsAt_cons rfl rest
  rw [body?, Text.dropWhile_run h hstops, Text.takeWhile_run h hstops]
  rfl

/-- The opening brace of a placeholder is not doubled, since no brace follows it. -/
theorem piecesFrom_placeholder {inner : List Char} (h : ∀ c ∈ inner, isPlain c = true)
    (rest : List Char) :
    piecesFrom 0 ('\x7b' :: (inner ++ '\x7d' :: rest)) =
      .placeholder (String.ofList (Text.trim inner)) :: piecesFrom 0 rest := by
  have hsingle : (inner ++ '\x7d' :: rest).head? ≠ some '\x7b' := by
    cases inner with
    | nil => simp
    | cons c cs =>
      intro heq
      obtain rfl : c = '\x7b' := Option.some.inj heq
      have hplain := h _ List.mem_cons_self
      cases hplain
  have hfront : frontPiece '\x7b' (inner ++ '\x7d' :: rest) =
      (.placeholder (String.ofList (Text.trim inner)), inner.length + 2) := by
    simp only [frontPiece, hsingle, decide_false, Bool.and_false, Bool.false_eq_true, if_false,
      if_true, body?_run h]
  have hskip := piecesFrom_skip (inner ++ ['\x7d']) rest
  rw [List.length_append, List.length_singleton, List.append_assoc, List.singleton_append] at hskip
  simp only [piecesFrom, hfront]
  exact congrArg _ hskip

/-- A segment is read as its pieces, whatever follows it. -/
theorem piecesFrom_source (s : Segment) (rest : List Char) :
    piecesFrom 0 (s.source ++ rest) = s.pieces ++ piecesFrom 0 rest := by
  cases s with
  | literal text =>
    rw [source, pieces]
    induction text.toList with
    | nil => rfl
    | cons c cs ih =>
      rw [List.flatMap_cons, List.append_assoc, List.map_cons, List.cons_append, ← ih]
      cases hc : isPlain c with
      | true => exact piecesFrom_plain hc _
      | false => exact piecesFrom_doubled hc _
  | placeholder inner plain =>
    have hinner := piecesFrom_placeholder plain rest
    rw [source, pieces, List.cons_append, List.append_assoc]
    exact hinner

theorem pieces_template (segments : List Segment) :
    Template.pieces (template segments) = segments.flatMap pieces := by
  rw [Template.pieces, template, String.toList_ofList]
  induction segments with
  | nil => rfl
  | cons s segments ih => rw [List.flatMap_cons, piecesFrom_source, ih, List.flatMap_cons]

/-! ### Filling -/

theorem resolve?_eq (row : Row) (rowIndex : Option Int) (inner : String)
    (plain : ∀ c ∈ inner.toList, isPlain c = true) :
    (Rendered.resolve? row rowIndex (Text.trimmed inner)).getD "" =
        (placeholder inner plain).filled row rowIndex ∧
      Rendered.missingIn row rowIndex (.placeholder (Text.trimmed inner)) =
        (placeholder inner plain).unresolved? row rowIndex := by
  cases hcell : row.get? (Text.trimmed inner) with
  | some cell => simp [filled, unresolved?, Rendered.missingIn, Rendered.resolve?, Row.has, hcell]
  | none =>
    by_cases hname : Text.trimmed inner = "row_index" <;> cases rowIndex <;>
      simp_all [filled, unresolved?, Rendered.missingIn, Rendered.resolve?, Rendered.rowIndexName,
        Row.has]

theorem join_textOf_pieces (row : Row) (rowIndex : Option Int) (s : Segment) :
    String.join (s.pieces.map (Rendered.textOf row rowIndex)) = s.filled row rowIndex := by
  cases s with
  | literal text =>
    rw [pieces, filled, ← String.toList_inj, String.toList_join]
    simp [List.flatMap_map, Rendered.textOf]
  | placeholder inner plain =>
    rw [← (resolve?_eq row rowIndex inner plain).1]
    simp [pieces, Rendered.textOf, String.join]

theorem filterMap_missingIn_pieces (row : Row) (rowIndex : Option Int) (s : Segment) :
    s.pieces.filterMap (Rendered.missingIn row rowIndex) = (s.unresolved? row rowIndex).toList := by
  cases s with
  | literal text => simp [pieces, unresolved?, Rendered.missingIn, List.filterMap_map]
  | placeholder inner plain =>
    rw [← (resolve?_eq row rowIndex inner plain).2, pieces]
    cases hmissing : Rendered.missingIn row rowIndex (.placeholder (Text.trimmed inner)) <;>
      simp [hmissing]

/-- **A template becomes its segments**, each filled on its own, and what it leaves unresolved are the
names of its segments in order. -/
theorem ofTemplate_template (segments : List Segment) (row : Row) (rowIndex : Option Int) :
    Rendered.ofTemplate (template segments) row rowIndex =
      ⟨String.join (segments.map (filled row rowIndex)),
        segments.filterMap (unresolved? row rowIndex)⟩ := by
  rw [Rendered.ofTemplate, pieces_template]
  congr 1
  · induction segments with
    | nil => rfl
    | cons s segments ih =>
      rw [List.flatMap_cons, List.map_append, String.join_append, join_textOf_pieces, ih]
      simp
  · induction segments with
    | nil => rfl
    | cons s segments ih =>
      rw [List.flatMap_cons, List.filterMap_append, filterMap_missingIn_pieces, ih]
      cases hs : s.unresolved? row rowIndex <;> simp [hs]

/-- Braces next to a placeholder, and braces in the cell that it becomes. -/
example :
    Rendered.ofTemplate "\x7b\x7b\x7b a \x7d\x7d\x7d#\x7brow_index\x7d\x7bb\x7d\x7bb\x7d"
      ⟨[("a", "\x7bb\x7d")], [], some 7⟩ (some 7) =
    ⟨"\x7b\x7bb\x7d\x7d#7", ["b", "b"]⟩ := by
  decide +kernel

end Segment

end Template

end RowAlert
