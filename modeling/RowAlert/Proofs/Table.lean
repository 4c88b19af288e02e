import RowAlert.Proofs.Columns
import RowAlert.Proofs.Lines
import RowAlert.Table
/-!
# RowAlert.Proofs.Table

**Reading a table undoes writing it.**

A `Sheet` is what a table is written from: a separator, perhaps a header, and records of cells. It is
written line by line, with blank lines anywhere between (`Sheet.Writes`); a blank line may hold line
boundaries of its own. None of this is seen in the rows that are read.
-/

namespace RowAlert

namespace Table

/-- Cells with a separator between neighbours. -/
def lineOf (separator : Char) (cells : List String) : String :=
  (String.singleton separator).intercalate cells

/-- A cell of a line holds neither the separator nor a line boundary. -/
def isCell (separator : Char) (cell : String) : Bool :=
  cell.toList.all fun c => c != separator && !Text.isLineEnd c

/-- Some lines, with blank lines anywhere before, between and behind them. -/
inductive Interspersed : List String → List String → Prop
  | nil : Interspersed [] []
  | blank {text : String} {written lines : List String} (h : Text.allBlank text.toList = true) :
    Interspersed written lines → Interspersed (text :: written) lines
  | line (line : String) {written lines : List String} :
    Interspersed written lines → Interspersed (line :: written) (line :: lines)

/-- What a table is written from. -/
structure Sheet where
  separator : Char
  /-- The names of the columns, if the first line gives them. -/
  header : Option (List String)
  records : List (List String)
  inline : Text.isLineEnd separator = false
  plain : ∀ record ∈ header.toList ++ records, ∀ cell ∈ record, isCell separator cell = true
  /-- No line that is written is blank. -/
  visible : ∀ record ∈ header.toList ++ records,
    Text.allBlank (lineOf separator record).toList = false

namespace Sheet

/-- Does the text write the sheet? The last line may be ended or not. -/
def Writes (sheet : Sheet) (text : String) : Prop :=
  ∃ written ending,
    Interspersed written ((sheet.header.toList ++ sheet.records).map (lineOf sheet.separator)) ∧
      (ending = "" ∨ ending = "\n") ∧ text = "\n".intercalate written ++ ending

/-- How the text of a sheet is read. -/
def format (sheet : Sheet) : TableFormat := ⟨sheet.header.isSome, some (String.singleton sheet.separator)⟩

/-- The name of a column: its header name without the blanks around it, or else its position. -/
def columnName (sheet : Sheet) (column : Nat) : String :=
  match sheet.header.bind fun names => names[column]? with
  | some name => if Text.allBlank name.toList then s!"column{column}" else Text.trimmed name
  | none => s!"column{column}"

/-- The cells of a record under the names of their columns. -/
def fields (sheet : Sheet) (record : List String) : Entries String String :=
  record.zipIdx.map fun (cell, column) => (sheet.columnName column, cell)

end Sheet

/-! ### Lines -/

/-- One line more is written in front of what is written. -/
theorem visibleLines_intercalate_cons (first : List Char) (written : List (List Char))
    {ending : List Char} (hending : ending = [] ∨ ending = ['\n']) :
    ∃ behind, (behind = [] ∨ behind = ['\n']) ∧
      Text.visibleLines (['\n'].intercalate (first :: written) ++ ending) =
        Text.visibleLines (first ++ behind) ++
          Text.visibleLines (['\n'].intercalate written ++ ending) := by
  cases written with
  | nil =>
    refine ⟨ending, hending, ?_⟩
    simp [Text.visibleLines_of_allBlank (Text.allBlank_of_ending hending)]
  | cons second written =>
    refine ⟨['\n'], .inr rfl, ?_⟩
    rw [List.intercalate_cons_cons, List.append_assoc, List.append_assoc, List.singleton_append,
      Text.visibleLines_append_feed]

theorem visibleLines_of_interspersed {written lines : List String} (h : Interspersed written lines)
    (hlines : ∀ line ∈ lines, Text.Inline line.toList ∧ Text.allBlank line.toList = false)
    {ending : List Char} (hending : ending = [] ∨ ending = ['\n']) :
    Text.visibleLines (['\n'].intercalate (written.map String.toList) ++ ending) =
      lines.map String.toList := by
  induction h with
  | nil => exact Text.visibleLines_of_allBlank (Text.allBlank_of_ending hending)
  | @blank text written lines htext _ ih =>
    obtain ⟨behind, hbehind, hcons⟩ :=
      visibleLines_intercalate_cons text.toList (written.map String.toList) hending
    have hblank : Text.allBlank (text.toList ++ behind) = true := by
      rw [Text.allBlank_append, htext, Text.allBlank_of_ending hbehind, Bool.and_true]
    rw [List.map_cons, hcons, ih hlines, Text.visibleLines_of_allBlank hblank, List.nil_append]
  | @line line written lines _ ih =>
    obtain ⟨behind, hbehind, hcons⟩ :=
      visibleLines_intercalate_cons line.toList (written.map String.toList) hending
    obtain ⟨⟨hinline, hvisible⟩, hrest⟩ := List.forall_mem_cons.1 hlines
    rw [List.map_cons, hcons, ih hrest, Text.visibleLines_of_visible hinline hvisible hbehind,
      List.map_cons, List.singleton_append]

/-! ### Cells -/

theorem isCell_iff {separator : Char} {cell : String} : isCell separator cell = true ↔
    separator ∉ cell.toList ∧ Text.Inline cell.toList := by
  simp only [isCell, List.all_eq_true, Bool.and_eq_true, bne_iff_ne, Bool.not_eq_true']
  constructor
  · intro h
    exact ⟨fun hmem => (h separator hmem).1 rfl, fun c hc => (h c hc).2⟩
  · rintro ⟨hseparator, hinline⟩ c hc
    exact ⟨fun heq => hseparator (heq ▸ hc), hinline c hc⟩

theorem toList_lineOf (separator : Char) (record : List String) :
    (lineOf separator record).toList = [separator].intercalate (record.map String.toList) := by
  rw [lineOf, String.toList_intercalate, String.toList_singleton]

theorem cells_lineOf {separator : Char} {record : List String} (hne : record ≠ [])
    (hplain : ∀ cell ∈ record, isCell separator cell = true) :
    cells (String.singleton separator) (lineOf separator record).toList = record := by
  have hcells : ∀ cell ∈ record.map String.toList, separator ∉ cell :=
    List.forall_mem_map.2 fun cell hcell => (isCell_iff.1 (hplain cell hcell)).1
  rw [cells, toList_lineOf, String.toList_singleton, Text.splitOn_singleton,
    List.splitOn_intercalate separator hcells (by simpa using hne), List.map_map]
  simp [Function.comp_def]

theorem inline_lineOf {separator : Char} {record : List String}
    (hseparator : Text.isLineEnd separator = false)
    (hplain : ∀ cell ∈ record, isCell separator cell = true) :
    Text.Inline (lineOf separator record).toList := by
  intro c hc
  rw [toList_lineOf] at hc
  obtain rfl | ⟨part, hpart, hmem⟩ := Text.mem_intercalate hc
  · exact hseparator
  · obtain ⟨cell, hcell, rfl⟩ := List.mem_map.1 hpart
    exact (isCell_iff.1 (hplain cell hcell)).2 c hmem

/-! ### Rows -/

/-- The columns of a record under a header, as a row with an index. -/
def rowOf (header record : List String) (index : Nat) : Row :=
  Row.make (Row.columns header 0 record) (Row.columnAliases header 0 record) (some index)

/-- Records whose columns have different names are rows, each numbered by its place. -/
theorem rowsFrom_of_nodup {separator : String} {header : List String}
    {records : List (List String)} {written : List String → List Char}
    (hcells : ∀ record ∈ records, cells separator (written record) = record)
    (hnames : ∀ record ∈ records, (Entries.keys (Row.columns header 0 record)).Nodup) (index : Nat) :
    rowsFrom separator header index (records.map written) =
      .ok ((records.zipIdx index).map fun (record, k) => rowOf header record k) := by
  induction records generalizing index with
  | nil => rfl
  | cons record records ih =>
    obtain ⟨hrecord, hrecords⟩ := List.forall_mem_cons.1 hcells
    obtain ⟨hname, hnames⟩ := List.forall_mem_cons.1 hnames
    rw [List.map_cons, rowsFrom, hrecord, Row.ofValues_of_nodup hname, ih hrecords hnames]
    rfl

/-- With something to split at, only the lines decide. -/
theorem rows_of_separator {separator : String} (h : separator ≠ "") (hasHeader : Bool) (text : String) :
    rows ⟨hasHeader, some separator⟩ text =
      (rowsOfLines hasHeader separator (dataLines text)).mapError .collision := by
  simp only [rows, h, if_false]
  cases dataLines text with
  | nil => rfl
  | cons line lines => rfl

namespace Sheet

/-- The names that the header gives. -/
def names (sheet : Sheet) : List String := (sheet.header.getD []).map Text.trimmed

theorem columnName_eq (sheet : Sheet) (column : Nat) :
    sheet.columnName column = Row.columnName sheet.names column := by
  rw [columnName, Row.columnName, Row.headerName?, names, Row.positionalName]
  cases sheet.header with
  | none => rfl
  | some names =>
    rw [Option.bind_some, Option.getD_some, List.getElem?_map]
    cases names[column]? with
    | none => rfl
    | some name =>
      by_cases h : Text.allBlank name.toList <;>
        simp [Option.filter, Text.trimmed_eq_empty_iff, h]

theorem fields_eq (sheet : Sheet) (record : List String) :
    sheet.fields record = Row.columns sheet.names 0 record := by
  simp only [fields, Row.columns, columnName_eq]

section

variable {sheet : Sheet} {record : List String} (h : record ∈ sheet.header.toList ++ sheet.records)

include h

theorem cells_of_mem :
    cells (String.singleton sheet.separator) (lineOf sheet.separator record).toList = record := by
  refine cells_lineOf ?_ (sheet.plain record h)
  rintro rfl
  have hvisible := sheet.visible [] h
  rw [toList_lineOf] at hvisible
  cases hvisible

theorem inline_of_mem : Text.Inline (lineOf sheet.separator record).toList :=
  inline_lineOf sheet.inline (sheet.plain record h)

end

/-- The lines with data are those of the sheet. -/
theorem dataLines_of_writes {sheet : Sheet} {text : String} (h : sheet.Writes text) :
    dataLines text = (sheet.header.toList ++ sheet.records).map fun record =>
      (lineOf sheet.separator record).toList := by
  obtain ⟨written, ending, hwritten, hending, rfl⟩ := h
  have hlines : ∀ text ∈ (sheet.header.toList ++ sheet.records).map (lineOf sheet.separator),
      Text.Inline text.toList ∧ Text.allBlank text.toList = false :=
    List.forall_mem_map.2 fun record hrecord => ⟨inline_of_mem hrecord, sheet.visible record hrecord⟩
  have hends : ending.toList = [] ∨ ending.toList = ['\n'] := by
    rcases hending with rfl | rfl
    · exact .inl rfl
    · exact .inr rfl
  have hvisible := visibleLines_of_interspersed hwritten hlines hends
  rw [List.map_map] at hvisible
  rw [dataLines, String.toList_append, String.toList_intercalate]
  exact hvisible

/-- The header, if there is one, names the columns of all records. -/
theorem rowsOfLines_eq (sheet : Sheet) :
    rowsOfLines sheet.header.isSome (String.singleton sheet.separator)
        ((sheet.header.toList ++ sheet.records).map fun record => (lineOf sheet.separator record).toList) =
      rowsFrom (String.singleton sheet.separator) sheet.names 0
        (sheet.records.map fun record => (lineOf sheet.separator record).toList) := by
  cases hheader : sheet.header with
  | none =>
    rw [names, hheader]
    cases sheet.records with
    | nil => rfl
    | cons record records => rfl
  | some header =>
    have hmem : header ∈ sheet.header.toList ++ sheet.records := by simp [hheader]
    simp [rowsOfLines, names, hheader, cells_of_mem hmem]

end Sheet

/-- **Reading undoes writing.** A text that writes a sheet is read as the records of the sheet, in order
and numbered from zero: each with its cells unchanged, under the names of their columns. Only names that
a header gives may fail to be different. -/
theorem rows_of_writes {sheet : Sheet} {text : String} (htext : sheet.Writes text)
    (hnames : sheet.header.isSome → ∀ record ∈ sheet.records,
      (Entries.keys (sheet.fields record)).Nodup) :
    ∃ found, rows sheet.format text = .ok found ∧
      found.map Row.fields = sheet.records.map sheet.fields ∧
      found.map Row.index = (List.range sheet.records.length).map fun k : Nat => some (k : Int) := by
  have hcells : ∀ record ∈ sheet.records,
      cells (String.singleton sheet.separator) (lineOf sheet.separator record).toList = record :=
    fun record hrecord => Sheet.cells_of_mem (List.mem_append_right _ hrecord)
  have hdistinct : ∀ record ∈ sheet.records, (Entries.keys (sheet.fields record)).Nodup := by
    intro record hrecord
    cases hheader : sheet.header with
    | none =>
      rw [Sheet.fields_eq, Sheet.names, hheader]
      exact Row.nodup_keys_columns_nil 0 record
    | some header => exact hnames (by rw [hheader]; rfl) record hrecord
  have hseparator : String.singleton sheet.separator ≠ "" := by
    intro h
    simpa using congrArg String.toList h
  have hrows := rowsFrom_of_nodup hcells (fun record hrecord =>
    sheet.fields_eq record ▸ hdistinct record hrecord) 0
  refine ⟨sheet.records.zipIdx.map fun (record, k) => rowOf sheet.names record k, ?_, ?_, ?_⟩
  · rw [Sheet.format, rows_of_separator hseparator, Sheet.dataLines_of_writes htext,
      Sheet.rowsOfLines_eq, hrows]
    rfl
  · calc (sheet.records.zipIdx.map fun (record, k) => rowOf sheet.names record k).map Row.fields
        = (sheet.records.zipIdx.map Prod.fst).map sheet.fields := by
          rw [List.map_map, List.map_map]
          exact List.map_congr_left fun p _ => (sheet.fields_eq p.1).symm
      _ = sheet.records.map sheet.fields := by rw [List.zipIdx_map_fst]
  · calc (sheet.records.zipIdx.map fun (record, k) => rowOf sheet.names record k).map Row.index
        = (sheet.records.zipIdx.map Prod.snd).map fun k : Nat => some (k : Int) := by
          rw [List.map_map, List.map_map]
          rfl
      _ = (List.range sheet.records.length).map fun k : Nat => some (k : Int) := by
          rw [List.zipIdx_map_snd, List.range_eq_range']

/-- A blank line in front, with a line boundary in it, and another one in between; the header leaves one
column without a name and one record beyond its names. -/
theorem rows_of_writes_semicolons :
    ∃ found, rows ⟨true, some ";"⟩ " \r\n name ; ;age\n\t\nada ;x;36;extra\n;y" = .ok found ∧
      found.map Row.fields =
        [[("name", "ada "), ("column1", "x"), ("age", "36"), ("column3", "extra")],
          [("name", ""), ("column1", "y")]] ∧
      found.map Row.index = [some 0, some 1] := by
  let sheet : Sheet :=
    { separator := ';'
      header := some [" name ", " ", "age"]
      records := [["ada ", "x", "36", "extra"], ["", "y"]]
      inline := by decide
      plain := by decide +kernel
      visible := by decide +kernel }
  have htext : sheet.Writes " \r\n name ; ;age\n\t\nada ;x;36;extra\n;y" := by
    refine ⟨[" \r", " name ; ;age", "\t", "ada ;x;36;extra", ";y"], "", ?_, .inl rfl, by decide +kernel⟩
    exact .blank (by decide +kernel) (.line _ (.blank (by decide +kernel) (.line _ (.line _ .nil))))
  have hnames : ∀ record ∈ sheet.records, (Entries.keys (sheet.fields record)).Nodup := by
    decide +kernel
  obtain ⟨found, hfound, hfields, hindex⟩ := rows_of_writes htext fun _ => hnames
  exact ⟨found, hfound, hfields.trans (by decide +kernel), hindex⟩

end Table

end RowAlert
