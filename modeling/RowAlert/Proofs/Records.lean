import RowAlert.Proofs.Table
/-!
# RowAlert.Proofs.Records

**Rows and the lines they were read from.**

A file has its lines ended by LF, CR LF or CR (`fileLines`), and a line that holds the separator or
anything that is not blank is a record (`records`). A table is read line by line too, but its lines end at
more characters, and all lines of blanks are dropped, be a blank the separator or not. So every row gives
back the piece of a record that it was read from, and the rows are the records as long as none is cut or
dropped (`rows_are_records_iff`).

That no record is cut or dropped when the rows are the records is a matter of counting: a line that is cut
or dropped loses a character, and no line gains one.
-/

namespace RowAlert

namespace Text

/-- The lines of a text as those of a file: ended by LF, CR LF or CR. What follows the last end, perhaps
nothing, is one line more. -/
def fileLines (cs : List Char) : List (List Char) := (normaliseLineEnds cs).splitOn '\n'

/-! ### Lines of a file and lines of a table -/

theorem normaliseLineEnds_cons {c : Char} {cs : List Char} (h : c = '\r' → cs.head? ≠ some '\n') :
    normaliseLineEnds (c :: cs) = (if c = '\r' then '\n' else c) :: normaliseLineEnds cs := by
  refine normaliseLineEnds.eq_3 c cs ?_
  rintro tail hreturn rfl
  exact h hreturn rfl

/-- Taking CR for LF changes no line. -/
theorem lines_normaliseLineEnds (cs : List Char) : lines (normaliseLineEnds cs) = lines cs := by
  induction cs using lines_induction with
  | nil => rfl
  | crlf cs ih => rw [normaliseLineEnds, lines_feed, lines_crlf, ih]
  | ended c cs hc hsingle ih =>
    rw [lines_cons_of_isLineEnd hc hsingle, ← ih, normaliseLineEnds_cons hsingle]
    by_cases hreturn : c = '\r'
    · rw [if_pos hreturn, lines_feed]
    · rw [if_neg hreturn, lines_cons_of_isLineEnd hc fun h => absurd h hreturn]
  | inline c cs hc ih =>
    have hreturn : c ≠ '\r' := by
      intro h
      subst h
      cases hc
    rw [normaliseLineEnds_cons fun h => absurd h hreturn, if_neg hreturn, lines_cons_of_inline hc,
      lines_cons_of_inline hc, ih]

/-- A line feed at the end ends the last line, or else a line of its own. -/
theorem lines_append_final_feed (cs : List Char) :
    lines (cs ++ ['\n']) = lines cs ∨ lines (cs ++ ['\n']) = lines cs ++ [[]] := by
  induction cs using lines_induction with
  | nil => exact .inr (by simp [lines_feed])
  | crlf cs ih => simpa [lines_crlf] using ih
  | ended c cs hc hsingle ih =>
    rw [lines_cons_of_isLineEnd hc hsingle]
    cases cs with
    | nil =>
      by_cases hreturn : c = '\r'
      · exact .inl (by simp [hreturn, lines_crlf])
      · right
        rw [List.singleton_append, lines_cons_of_isLineEnd hc fun h => absurd h hreturn, lines_feed,
          lines_nil]
        rfl
    | cons d cs =>
      have hother : ∀ {ds : List Char}, c = '\r' → (d :: ds).head? ≠ some '\n' := hsingle
      rw [List.cons_append, List.cons_append, lines_cons_of_isLineEnd hc hother]
      simpa using ih
  | inline c cs hc ih =>
    rw [List.cons_append, lines_cons_of_inline hc, lines_cons_of_inline hc]
    cases cs with
    | nil => exact .inl (by simp [lines_feed, consLine])
    | cons d cs =>
      rcases ih with h | h
      · exact .inl (by rw [h])
      · exact .inr (by rw [h, consLine_append c (lines_ne_nil d cs)])

theorem visibleLines_append_final_feed (cs : List Char) :
    visibleLines (cs ++ ['\n']) = visibleLines cs := by
  unfold visibleLines
  rcases lines_append_final_feed cs with h | h
  · rw [h]
  · rw [h, List.filter_append]
    simp

theorem visibleLines_intercalate (parts : List (List Char)) :
    visibleLines (['\n'].intercalate parts) = parts.flatMap visibleLines := by
  induction parts with
  | nil => simp [visibleLines]
  | cons part parts ih =>
    cases parts with
    | nil => simp
    | cons next parts =>
      rw [List.intercalate_cons_cons, List.append_assoc, List.singleton_append, visibleLines_append_feed,
        visibleLines_append_final_feed, ih]
      rfl

/-- What is read of a text is read of the lines of the file, one by one. -/
theorem visibleLines_eq_flatMap (cs : List Char) :
    visibleLines cs = (fileLines cs).flatMap visibleLines := by
  rw [fileLines, ← visibleLines_intercalate, List.intercalate_splitOn, visibleLines, visibleLines,
    lines_normaliseLineEnds]

/-! ### Counting characters -/

/-- Lines hold every character that does not end one. -/
theorem flatten_lines (cs : List Char) : (lines cs).flatten = cs.filter fun c => !isLineEnd c := by
  induction cs using lines_induction with
  | nil => simp
  | crlf cs ih =>
    have hends : isLineEnd '\r' = true ∧ isLineEnd '\n' = true := by decide
    simp [lines_crlf, ih, hends]
  | ended c cs hc hsingle ih => simp [lines_cons_of_isLineEnd hc hsingle, ih, hc]
  | inline c cs hc ih =>
    have hcons : (consLine c (lines cs)).flatten = c :: (lines cs).flatten := by
      cases lines cs <;> simp [consLine]
    simp [lines_cons_of_inline hc, hcons, ih, hc]

theorem length_flatten_filter_le (p : List Char → Bool) (ls : List (List Char)) :
    (ls.filter p).flatten.length ≤ ls.flatten.length := by
  induction ls with
  | nil => simp
  | cons l ls ih =>
    by_cases h : p l
    · simpa [h] using ih
    · simp only [h, Bool.false_eq_true, not_false_eq_true, List.filter_cons_of_neg, List.flatten_cons,
        List.length_append]
      omega

theorem length_flatten_visibleLines_le (cs : List Char) :
    (visibleLines cs).flatten.length ≤ (cs.filter fun c => !isLineEnd c).length := by
  rw [← flatten_lines]
  exact length_flatten_filter_le _ _

theorem length_visibleLines_le (cs : List Char) : (visibleLines cs).flatten.length ≤ cs.length :=
  Nat.le_trans (length_flatten_visibleLines_le cs) (List.length_filter_le _ _)

/-- A line that loses no character is neither cut nor dropped. -/
theorem inline_of_length_visibleLines {line : List Char} (hne : line ≠ [])
    (h : (visibleLines line).flatten.length = line.length) :
    Inline line ∧ allBlank line = false := by
  have hfilter : (line.filter fun c => !isLineEnd c).length = line.length :=
    Nat.le_antisymm (List.length_filter_le _ _) (h ▸ length_flatten_visibleLines_le line)
  constructor
  · intro c hc
    simpa using List.length_filter_eq_length_iff.1 hfilter c hc
  · cases hblank : allBlank line with
    | false => rfl
    | true =>
      rw [visibleLines_of_allBlank hblank] at h
      exact absurd (List.length_eq_zero_iff.1 h.symm) hne

/-- Pieces that are no longer than the parts they are made of, and as long in sum, are as long each. -/
theorem forall_length_of_flatMap {pieces : List Char → List (List Char)}
    (hle : ∀ part, (pieces part).flatten.length ≤ part.length) (parts : List (List Char)) :
    (parts.flatMap pieces).flatten.length ≤ parts.flatten.length ∧
      ((parts.flatMap pieces).flatten.length = parts.flatten.length →
        ∀ part ∈ parts, (pieces part).flatten.length = part.length) := by
  induction parts with
  | nil => simp
  | cons part parts ih =>
    obtain ⟨hrest, hequal⟩ := ih
    have hpart := hle part
    simp only [List.flatMap_cons, List.flatten_append, List.flatten_cons, List.length_append,
      List.forall_mem_cons]
    refine ⟨by omega, ?_⟩
    intro hsum
    exact ⟨by omega, hequal (by omega)⟩

/-- Lines are what is read of them exactly if none of them is cut or dropped. -/
theorem flatMap_visibleLines_eq_iff {parts : List (List Char)} (hne : ∀ part ∈ parts, part ≠ []) :
    parts.flatMap visibleLines = parts ↔
      ∀ part ∈ parts, Inline part ∧ allBlank part = false := by
  constructor
  · intro h part hpart
    have hlengths := (forall_length_of_flatMap length_visibleLines_le parts).2 (by rw [h])
    exact inline_of_length_visibleLines (hne part hpart) (hlengths part hpart)
  · intro h
    have hsingle : ∀ part ∈ parts, visibleLines part = [part] := by
      intro part hpart
      simpa using visibleLines_of_visible (h part hpart).1 (h part hpart).2 (.inl rfl)
    rw [List.flatMap_congr hsingle, List.flatMap_singleton']

end Text

namespace Table

/-- The lines of a text that hold the separator or something that is not blank. -/
def records (separator : Char) (text : String) : List (List Char) :=
  (Text.fileLines text.toList).filter fun line => line.contains separator || !Text.allBlank line

/-- The line that the cells of a row write. -/
def written (separator : Char) (row : Row) : List Char :=
  (lineOf separator (row.fields.map Prod.snd)).toList

/-- Only records are read. -/
theorem dataLines_eq_flatMap (separator : Char) (text : String) :
    dataLines text = (records separator text).flatMap Text.visibleLines := by
  have hlines : dataLines text = (Text.fileLines text.toList).flatMap Text.visibleLines :=
    Text.visibleLines_eq_flatMap text.toList
  rw [hlines, records]
  induction Text.fileLines text.toList with
  | nil => rfl
  | cons line lines ih =>
    rw [List.flatMap_cons, ih, List.filter_cons]
    split
    · rw [List.flatMap_cons]
    · rename_i hno
      have hblank : Text.allBlank line = true := by
        simp only [Bool.or_eq_true, Bool.not_eq_true', not_or, Bool.not_eq_false] at hno
        exact hno.2
      rw [Text.visibleLines_of_allBlank hblank, List.nil_append]

theorem ne_nil_of_mem_records {separator : Char} {text : String} {line : List Char}
    (h : line ∈ records separator text) : line ≠ [] := by
  intro hnil
  rw [records, List.mem_filter, hnil] at h
  simp at h

/-- The cells of a line write the line. -/
theorem lineOf_cells (separator : Char) (line : List Char) :
    (lineOf separator (cells (String.singleton separator) line)).toList = line := by
  rw [toList_lineOf, cells, String.toList_singleton, Text.splitOn_singleton, List.map_map]
  simp [Function.comp_def, List.intercalate_splitOn]

theorem written_rowOf (separator : Char) (header record : List String) (index : Nat) :
    written separator (rowOf header record index) = (lineOf separator record).toList := by
  have hcells : (rowOf header record index).fields.map Prod.snd = record := by
    simp [rowOf, Row.make, Row.columns, Function.comp_def]
  rw [written, hcells]

/-- Without a header every line with data is a row. -/
theorem rows_without_header (separator : Char) (text : String) :
    rows ⟨false, some (String.singleton separator)⟩ text =
      .ok ((dataLines text).zipIdx.map fun (line, k) =>
        rowOf [] (cells (String.singleton separator) line) k) := by
  have hseparator : String.singleton separator ≠ "" := by
    intro h
    simpa using congrArg String.toList h
  have hcells : ∀ record ∈ (dataLines text).map (cells (String.singleton separator)),
      cells (String.singleton separator) (lineOf separator record).toList = record :=
    List.forall_mem_map.2 fun line _ => by rw [lineOf_cells]
  have hrows := rowsFrom_of_nodup hcells (fun record _ => Row.nodup_keys_columns_nil 0 record) 0
  have hlines : ((dataLines text).map (cells (String.singleton separator))).map
      (fun record => (lineOf separator record).toList) = dataLines text := by
    simp [List.map_map, Function.comp_def, lineOf_cells]
  have hnames : rowsOfLines false (String.singleton separator) (dataLines text) =
      rowsFrom (String.singleton separator) [] 0 (dataLines text) := by
    cases dataLines text with
    | nil => rfl
    | cons line lines => rfl
  rw [hlines, List.zipIdx_map, List.map_map] at hrows
  rw [rows_of_separator hseparator, hnames, hrows]
  rfl

/-- **The rows are the records, line by line, exactly if no record is cut or dropped.** Reading without a
header always succeeds; the rows are numbered in order and each gives back the line it was read from,
which is a record or a piece of one. They are the records themselves if and only if no record holds a line
boundary or is made of blanks only. -/
theorem rows_are_records_iff (separator : Char) (text : String) :
    ∃ found, rows ⟨false, some (String.singleton separator)⟩ text = .ok found ∧
      found.map Row.index = (List.range found.length).map (fun k : Nat => some (k : Int)) ∧
      found.map (written separator) = (records separator text).flatMap Text.visibleLines ∧
      (found.map (written separator) = records separator text ↔
        ∀ line ∈ records separator text, Text.Inline line ∧ Text.allBlank line = false) := by
  let row := fun line : List Char × Nat => rowOf [] (cells (String.singleton separator) line.1) line.2
  have hwritten : ((dataLines text).zipIdx.map row).map (written separator) =
      (records separator text).flatMap Text.visibleLines := by
    calc ((dataLines text).zipIdx.map row).map (written separator)
        = (dataLines text).zipIdx.map Prod.fst := by
          rw [List.map_map]
          refine List.map_congr_left fun line _ => ?_
          exact (written_rowOf separator [] _ line.2).trans (lineOf_cells separator line.1)
      _ = (records separator text).flatMap Text.visibleLines := by
          rw [List.zipIdx_map_fst, dataLines_eq_flatMap]
  have hindex : ((dataLines text).zipIdx.map row).map Row.index =
      (List.range ((dataLines text).zipIdx.map row).length).map fun k : Nat => some (k : Int) := by
    calc ((dataLines text).zipIdx.map row).map Row.index
        = ((dataLines text).zipIdx.map Prod.snd).map fun k : Nat => some (k : Int) := by
          rw [List.map_map, List.map_map]
          rfl
      _ = (List.range ((dataLines text).zipIdx.map row).length).map fun k : Nat => some (k : Int) := by
          rw [List.zipIdx_map_snd, List.length_map, List.length_zipIdx, List.range_eq_range']
  refine ⟨_, rows_without_header separator text, hindex, hwritten, ?_⟩
  rw [hwritten]
  exact Text.flatMap_visibleLines_eq_iff fun _ => ne_nil_of_mem_records

/-- A vertical tab inside a cell cuts its record in two, and a record of empty cells is dropped because
its separators are blanks. -/
theorem not_records_cut_or_dropped :
    ¬∀ (separator : Char) (text : String) (found : List Row), separator ≠ '\r' → separator ≠ '\n' →
      rows ⟨false, some (String.singleton separator)⟩ text = .ok found →
        found.map (written separator) = records separator text := by
  intro h
  have hrows := h '\t' "a\x0bb\tc\n\t\n1\t2\n" _ (by decide) (by decide)
    (rows_without_header '\t' "a\x0bb\tc\n\t\n1\t2\n")
  revert hrows
  decide +kernel

end Table

end RowAlert
