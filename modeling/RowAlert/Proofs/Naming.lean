import RowAlert.Proofs.Columns
import RowAlert.Proofs.Entries
/-!
# RowAlert.Proofs.Naming

**What the names of a row stand for.**

Every column has one name: the one in the header, or else its position. While a row is built, the fields
made so far are the columns so far, under different names (`addColumns_cases`). So a row is refused at
the first column whose name is taken, and a row that is not refused has each of its columns
(`ofValues_keeps_iff`).

A column that the header names can be reached by its position as well, unless the header gives this very
name to another column: fields come before aliases, and the other column is reached instead
(`positionalName_reaches`).
-/

namespace RowAlert

namespace Row

/-! ### Names -/

/-- The names of the columns before `count`. -/
def names (header : List String) (count : Nat) : List String :=
  (List.range count).map (columnName header)

/-- Two of the columns before `count` have the same name. -/
def Clash (header : List String) (count : Nat) : Prop :=
  ∃ i j, i < j ∧ j < count ∧ columnName header i = columnName header j

theorem names_succ (header : List String) (count : Nat) :
    names header (count + 1) = names header count ++ [columnName header count] := by
  simp [names, List.range_succ]

theorem mem_names {header : List String} {count : Nat} {name : String} :
    name ∈ names header count ↔ ∃ i < count, columnName header i = name := by
  simp [names]

theorem keys_columns_eq_names (header : List String) (cells : List String) :
    Entries.keys (columns header 0 cells) = names header cells.length := by
  rw [keys_columns, names, List.range_eq_range']

theorem nodup_names_iff {header : List String} {count : Nat} :
    (names header count).Nodup ↔ ¬Clash header count := by
  rw [names, List.Nodup, List.pairwise_map, List.pairwise_iff_getElem]
  constructor
  · rintro h ⟨i, j, hij, hj, heq⟩
    have hne := h i j (by simpa using Nat.lt_trans hij hj) (by simpa using hj) hij
    simp only [List.getElem_range] at hne
    exact hne heq
  · intro h i j hi hj hij heq
    simp only [List.length_range, List.getElem_range] at hi hj heq
    exact h ⟨i, j, hij, hj, heq⟩

/-- A name looks like the position of a column if the header says so, or if the column has no other. -/
theorem columnName_eq_positionalName_iff {header : List String} {i j : Nat} :
    columnName header j = positionalName i ↔
      headerName? header j = some (positionalName i) ∨ headerName? header j = none ∧ j = i := by
  rw [columnName]
  cases headerName? header j with
  | none =>
    simp only [Option.getD_none, true_and, reduceCtorEq, false_or]
    exact ⟨fun h => positionalName_injective h, fun h => h ▸ rfl⟩
  | some name => simp

/-- Columns without a clash are told apart by their names. -/
theorem eq_of_columnName_eq {header : List String} {count i j : Nat} (h : ¬Clash header count)
    (hi : i < count) (hj : j < count) (heq : columnName header i = columnName header j) : i = j := by
  rcases Nat.lt_trichotomy i j with hlt | rfl | hlt
  · exact absurd ⟨i, j, hlt, hj, heq⟩ h
  · rfl
  · exact absurd ⟨j, i, hlt, hi, heq.symm⟩ h

theorem columnName_of_headerName? {header : List String} {i : Nat} {name : String}
    (h : headerName? header i = some name) : columnName header i = name := by
  rw [columnName, h, Option.getD_some]

/-! ### Building -/

end Row

/-- A collision of the first column whose name is taken with an earlier column. -/
structure Collision.IsFirst (c : Collision) (header : List String) (index : Int) (count : Nat) : Prop where
  row : c.row = index
  column : c.column < count
  name : c.name = Row.columnName header c.column
  taken : c.name ∈ Row.names header c.column
  first : ¬Row.Clash header c.column

theorem Collision.IsFirst.clash {c : Collision} {header : List String} {index : Int} {count : Nat}
    (h : c.IsFirst header index count) : Row.Clash header count := by
  obtain ⟨i, hi, heq⟩ := Row.mem_names.1 h.taken
  exact ⟨i, c.column, hi, h.column, heq.trans h.name⟩

namespace Row

/-- The columns from `column` on join those before them, unless a name among them is taken. -/
theorem addColumns_cases {header : List String} {index : Int} {column : Nat} {cells : List String}
    {fields aliases : Entries String String} (hfields : Entries.keys fields = names header column)
    (hdistinct : (names header column).Nodup) :
    (names header (column + cells.length)).Nodup ∨
      ∃ c, addColumns header index column fields aliases cells = .error c ∧
        c.IsFirst header index (column + cells.length) := by
  induction cells generalizing column fields aliases with
  | nil => exact .inl hdistinct
  | cons cell cells ih =>
    rw [List.length_cons, addColumns]
    by_cases hhas : Entries.has fields (columnName header column) = true
    · have htaken : columnName header column ∈ names header column := by
        rwa [Entries.has_iff, hfields] at hhas
      refine .inr ⟨⟨index, columnName header column, column⟩, if_pos hhas, ?_⟩
      exact ⟨rfl, Nat.lt_add_of_pos_right (Nat.succ_pos _), rfl, htaken, nodup_names_iff.1 hdistinct⟩
    · have hnew : columnName header column ∉ names header column := by
        rwa [Entries.has_iff, hfields] at hhas
      have hfields' : Entries.keys (fields ++ [(columnName header column, cell)]) =
          names header (column + 1) := by
        rw [names_succ, ← hfields]
        simp [Entries.keys]
      have hdistinct' : (names header (column + 1)).Nodup := by
        rw [names_succ, List.nodup_append]
        refine ⟨hdistinct, by simp, ?_⟩
        intro name hname other hother heq
        rw [List.mem_singleton.1 hother] at heq
        exact hnew (heq ▸ hname)
      have hrest := @ih _ _ (aliases ++ columnAlias header column) hfields' hdistinct'
      rw [show column + 1 + cells.length = column + (cells.length + 1) by omega] at hrest
      simpa only [hhas, Bool.false_eq_true, if_false] using hrest

/-- The row of some cells whose columns have different names. -/
def built (header : List String) (index : Int) (cells : List String) : Row :=
  make (columns header 0 cells) (columnAliases header 0 cells) (some index)

theorem ofValues_of_not_clash {header : List String} {index : Int} {cells : List String}
    (h : ¬Clash header cells.length) : ofValues header index cells = .ok (built header index cells) := by
  apply ofValues_of_nodup
  rw [keys_columns_eq_names]
  exact nodup_names_iff.2 h

theorem error_of_clash {header : List String} {cells : List String} (h : Clash header cells.length)
    (index : Int) :
    ∃ c, ofValues header index cells = .error c ∧ c.IsFirst header index cells.length := by
  have hcases := @addColumns_cases header index 0 cells [] [] rfl List.nodup_nil
  rw [Nat.zero_add] at hcases
  rcases hcases with hnodup | hrefused
  · exact absurd h (nodup_names_iff.1 hnodup)
  · exact hrefused

/-- A row is built from columns with different names only. -/
theorem built_of_ok {header : List String} {index : Int} {cells : List String} {row : Row}
    (h : ofValues header index cells = .ok row) :
    ¬Clash header cells.length ∧ row = built header index cells := by
  by_cases hclash : Clash header cells.length
  · obtain ⟨c, hc, -⟩ := error_of_clash hclash index
    rw [h] at hc
    cases hc
  · refine ⟨hclash, ?_⟩
    rw [ofValues_of_not_clash hclash] at h
    exact (Except.ok.inj h).symm

/-! ### Looking up -/

/-- Fields come before aliases. -/
theorem get?_make (fields aliases : Entries String String) (index : Option Int) (name : String) :
    (make fields aliases index).get? name =
      (Entries.get? fields name).or ((Entries.get? aliases name).bind (Entries.get? fields)) := by
  unfold get? item make
  cases hfield : Entries.get? fields name with
  | some cell => rfl
  | none =>
    have hfree : (!Entries.has fields name) = true := by simp [Entries.has, hfield]
    have hkept := Entries.get?_filter aliases (p := fun name => !Entries.has fields name) hfree
    rw [hkept]
    cases Entries.get? aliases name with
    | none => rfl
    | some target => cases htarget : Entries.get? fields target <;> simp [htarget]

theorem get?_columns {header : List String} {cells : List String} (h : ¬Clash header cells.length)
    {i : Nat} (hi : i < cells.length) :
    Entries.get? (columns header 0 cells) (columnName header i) = cells[i]? := by
  have hmem : (columnName header i, cells[i]) ∈ columns header 0 cells :=
    List.mem_map.2 ⟨(cells[i], i), List.mem_zipIdx_iff_getElem?.2 (by simp), rfl⟩
  rw [Entries.get?_of_mem ((keys_columns_eq_names header cells).symm ▸ nodup_names_iff.2 h) hmem,
    List.getElem?_eq_getElem hi]

theorem get?_columns_eq_none_iff {header : List String} {cells : List String} {name : String} :
    Entries.get? (columns header 0 cells) name = none ↔ name ∉ names header cells.length := by
  rw [Entries.get?_eq_none_iff, keys_columns_eq_names]

theorem get?_columnAlias (header : List String) (column i : Nat) :
    Entries.get? (columnAlias header column) (positionalName i) =
      if column = i then headerName? header i else none := by
  rw [columnAlias]
  by_cases h : column = i
  · subst h
    cases headerName? header column <;> simp [Entries.get?]
  · have hne : positionalName column ≠ positionalName i := fun heq => h (positionalName_injective heq)
    cases headerName? header column <;> simp [Entries.get?, h, hne]

/-- The alias of a position is the header name of the column there. -/
theorem get?_columnAliases (header : List String) (column i : Nat) (cells : List String) :
    Entries.get? (columnAliases header column cells) (positionalName i) =
      if column ≤ i ∧ i < column + cells.length then headerName? header i else none := by
  induction cells generalizing column with
  | nil =>
    rw [columnAliases_nil, List.length_nil, if_neg (by omega)]
    rfl
  | cons cell cells ih =>
    rw [columnAliases_cons, Entries.get?_append, get?_columnAlias, ih, List.length_cons]
    by_cases h : column = i
    · rw [if_pos h, if_neg (by omega), if_pos (by omega), Option.or_none]
    · rw [if_neg h, Option.none_or]
      by_cases hrest : column + 1 ≤ i ∧ i < column + 1 + cells.length
      · rw [if_pos hrest, if_pos (by omega)]
      · rw [if_neg hrest, if_neg (by omega)]

/-- Only positions are aliases. -/
theorem exists_of_mem_columnAliases {header : List String} {column : Nat} {cells : List String}
    {name : String} (h : name ∈ Entries.keys (columnAliases header column cells)) :
    ∃ i, name = positionalName i := by
  induction cells generalizing column with
  | nil => cases h
  | cons cell cells ih =>
    rw [columnAliases_cons, Entries.keys, List.map_append, List.mem_append] at h
    rcases h with hfirst | hrest
    · rw [columnAlias] at hfirst
      split at hfirst
      · exact ⟨column, by simpa using hfirst⟩
      · simp at hfirst
    · exact ih hrest

/-- A positional name that no column is called reaches its own column. -/
theorem get?_built_of_free {header : List String} {index : Int} {cells : List String}
    (h : ¬Clash header cells.length) {i : Nat} (hi : i < cells.length)
    (hfree : positionalName i ∉ names header cells.length) :
    (built header index cells).get? (positionalName i) = cells[i]? := by
  have hnamed : headerName? header i = some (columnName header i) := by
    cases hname : headerName? header i with
    | some name => rw [columnName_of_headerName? hname]
    | none =>
      have hown : columnName header i = positionalName i := by simp [columnName, hname]
      exact absurd (mem_names.2 ⟨i, hi, hown⟩) hfree
  rw [built, get?_make, get?_columns_eq_none_iff.2 hfree, get?_columnAliases, if_pos (by omega), hnamed,
    Option.none_or, Option.bind_some, get?_columns h hi]

theorem get?_built_columnName {header : List String} {index : Int} {cells : List String}
    (h : ¬Clash header cells.length) {i : Nat} (hi : i < cells.length) :
    (built header index cells).get? (columnName header i) = cells[i]? := by
  rw [built, get?_make, get?_columns h hi, List.getElem?_eq_getElem hi, Option.some_or]

/-! ### Rows keep their columns -/

/-- The row has the columns of some cells under a header, and answers to no other names than theirs and
the positions of those that the header names. -/
structure Keeps (row : Row) (header : List String) (index : Int) (cells : List String) : Prop where
  index : row.index = some index
  names : Entries.keys row.fields = names header cells.length
  size : row.fields.length = cells.length
  cell : ∀ i < cells.length, row.get? (columnName header i) = cells[i]?
  known : ∀ name, row.has name = true ↔ name ∈ Row.names header cells.length ∨
    ∃ i < cells.length, (headerName? header i).isSome ∧ name = positionalName i

theorem has_built_iff {header : List String} {index : Int} {cells : List String}
    (h : ¬Clash header cells.length) (name : String) :
    (built header index cells).has name = true ↔ name ∈ names header cells.length ∨
      ∃ i < cells.length, (headerName? header i).isSome ∧ name = positionalName i := by
  constructor
  · intro hhas
    by_cases hname : name ∈ names header cells.length
    · exact .inl hname
    · rw [has, built, get?_make, get?_columns_eq_none_iff.2 hname, Option.none_or] at hhas
      have hsome : (Entries.get? (columnAliases header 0 cells) name).isSome := by
        cases hget : Entries.get? (columnAliases header 0 cells) name with
        | some target => rfl
        | none =>
          rw [hget] at hhas
          cases hhas
      obtain ⟨i, rfl⟩ := exists_of_mem_columnAliases (Entries.get?_isSome_iff.1 hsome)
      rw [get?_columnAliases] at hsome
      by_cases hi : 0 ≤ i ∧ i < 0 + cells.length
      · rw [if_pos hi] at hsome
        exact .inr ⟨i, by omega, hsome, rfl⟩
      · rw [if_neg hi] at hsome
        cases hsome
  · have hcell : ∀ i < cells.length, (cells[i]?).isSome = true := by simp
    rintro (hname | ⟨i, hi, -, rfl⟩)
    · obtain ⟨i, hi, rfl⟩ := mem_names.1 hname
      rw [has, get?_built_columnName h hi, hcell i hi]
    · by_cases hname : positionalName i ∈ names header cells.length
      · obtain ⟨j, hj, hsame⟩ := mem_names.1 hname
        rw [← hsame, has, get?_built_columnName h hj, hcell j hj]
      · rw [has, get?_built_of_free h hi hname, hcell i hi]

theorem keeps_built {header : List String} {index : Int} {cells : List String}
    (h : ¬Clash header cells.length) : (built header index cells).Keeps header index cells where
  index := rfl
  names := keys_columns_eq_names header cells
  size := by simp [built, make, columns]
  cell := fun _ hi => get?_built_columnName h hi
  known := has_built_iff h

/-- The column that a name by position reaches: one that the header calls so, else its own. -/
def reached (header : List String) (count i : Nat) : Nat :=
  ((List.range count).find? fun j => headerName? header j = some (positionalName i)).getD i

/-- **A name by position reaches its own column exactly if the header gives it to no other**, and
otherwise the column that the header gives it to. -/
theorem positionalName_reaches {header : List String} {index : Int} {cells : List String} {row : Row}
    (h : ofValues header index cells = .ok row) {i : Nat} (hi : i < cells.length) :
    row.get? (positionalName i) = cells[reached header cells.length i]? ∧
      (reached header cells.length i = i ↔
        ∀ j < cells.length, headerName? header j = some (positionalName i) → j = i) := by
  obtain ⟨hclash, rfl⟩ := built_of_ok h
  rw [reached]
  cases hfind : (List.range cells.length).find? fun j =>
      headerName? header j = some (positionalName i) with
  | none =>
    have hnone : ∀ j < cells.length, headerName? header j ≠ some (positionalName i) := by
      simpa using hfind
    refine ⟨?_, fun _ j hj hname => absurd hname (hnone j hj), fun _ => rfl⟩
    by_cases hname : positionalName i ∈ names header cells.length
    · -- Only column `i` itself can have the name, since the header does not give it to any.
      obtain ⟨j, hj, hcolumn⟩ := mem_names.1 hname
      rcases columnName_eq_positionalName_iff.1 hcolumn with hheader | ⟨-, rfl⟩
      · exact absurd hheader (hnone j hj)
      · rw [← hcolumn, get?_built_columnName hclash hi, Option.getD_none]
    · exact get?_built_of_free hclash hi hname
  | some j =>
    obtain ⟨hheader, hmem, -⟩ := List.find?_range_eq_some.1 hfind
    have hj : j < cells.length := List.mem_range.1 hmem
    have hcolumn : columnName header j = positionalName i :=
      columnName_of_headerName? (of_decide_eq_true hheader)
    constructor
    · rw [← hcolumn, get?_built_columnName hclash hj, Option.getD_some]
    · constructor
      · intro heq k hk hname
        have hsame : columnName header k = columnName header j := by
          rw [columnName_of_headerName? hname, hcolumn]
        exact (eq_of_columnName_eq hclash hk hj hsame).trans heq
      · intro hown
        exact hown j hj (of_decide_eq_true hheader)

/-- The header gives the position of the second column to the first; the third has no other name. -/
theorem positionalName_reaches_lookalike :
    ∃ row, ofValues ["column1", "x", ""] 0 ["a", "b", "c"] = .ok row ∧ 1 < ["a", "b", "c"].length ∧
      row.get? (positionalName 1) = ["a", "b", "c"][reached ["column1", "x", ""] 3 1]? ∧
      (reached ["column1", "x", ""] 3 1 = 1 ↔
        ∀ j < 3, headerName? ["column1", "x", ""] j = some (positionalName 1) → j = 1) := by
  have hrow : ofValues ["column1", "x", ""] 0 ["a", "b", "c"] =
      .ok (built ["column1", "x", ""] 0 ["a", "b", "c"]) := by
    rfl
  exact ⟨_, hrow, by decide, positionalName_reaches hrow (by decide)⟩

/-- A header name that looks like a position hides the column there. -/
theorem not_own_of_lookalike :
    ¬∀ (header : List String) (index : Int) (cells : List String) (row : Row),
      ofValues header index cells = .ok row →
        ∀ i < cells.length, row.get? (positionalName i) = cells[i]? := by
  intro h
  have hown := h ["column1", "x"] 0 ["a", "b"] (built ["column1", "x"] 0 ["a", "b"]) rfl 1 (by decide)
  revert hown
  decide

end Row

end RowAlert
