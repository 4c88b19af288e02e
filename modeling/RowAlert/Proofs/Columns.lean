import Mathlib.Data.List.Nodup
import RowAlert.Row
/-!
# RowAlert.Proofs.Columns

**The columns of a row.**

What building a row adds to its fields and aliases are the columns of its cells, from the first to the
last (`columns`, `columnAliases`). Nothing stands in the way as long as no name occurs twice, and names
by position never do.
-/

namespace RowAlert

namespace Row

/-- Cells under their names, from the column `column` on. -/
def columns (header : List String) (column : Nat) (cells : List String) : Entries String String :=
  (cells.zipIdx column).map fun (cell, i) => (columnName header i, cell)

/-- The aliases of some cells, from the column `column` on. -/
def columnAliases (header : List String) (column : Nat) (cells : List String) :
    Entries String String :=
  (cells.zipIdx column).flatMap fun (_, i) => columnAlias header i

section

variable (header : List String) (column : Nat) (cell : String) (cells : List String)

@[simp] theorem columns_nil : columns header column [] = [] := rfl

@[simp] theorem columns_cons : columns header column (cell :: cells) =
    (columnName header column, cell) :: columns header (column + 1) cells := rfl

@[simp] theorem columnAliases_nil : columnAliases header column [] = [] := rfl

@[simp] theorem columnAliases_cons : columnAliases header column (cell :: cells) =
    columnAlias header column ++ columnAliases header (column + 1) cells := rfl

theorem keys_columns : Entries.keys (columns header column cells) =
    (List.range' column cells.length).map (columnName header) := by
  rw [← List.zipIdx_map_snd, Entries.keys, columns, List.map_map, List.map_map]
  rfl

end

/-- **Columns with different names make a row**, behind the fields and aliases of earlier columns. -/
theorem addColumns_of_nodup {header : List String} {index : Int} {column : Nat} {cells : List String}
    {fields aliases : Entries String String}
    (h : (Entries.keys (fields ++ columns header column cells)).Nodup) :
    addColumns header index column fields aliases cells =
      .ok (make (fields ++ columns header column cells)
        (aliases ++ columnAliases header column cells) (some index)) := by
  induction cells generalizing column fields aliases with
  | nil => simp [addColumns]
  | cons cell cells ih =>
    rw [columns_cons, List.append_cons] at h
    have hnew : ¬ Entries.has fields (columnName header column) = true := by
      intro hhas
      rw [Entries.has_iff] at hhas
      simp only [Entries.keys, List.map_append, List.map_cons, List.append_assoc,
        List.singleton_append, List.nodup_append] at h
      exact h.2.2 _ hhas _ List.mem_cons_self rfl
    rw [addColumns]
    simp only [hnew, Bool.false_eq_true, if_false]
    rw [ih h, columns_cons, columnAliases_cons, ← List.append_assoc, ← List.append_cons]

theorem ofValues_of_nodup {header : List String} {index : Int} {cells : List String}
    (h : (Entries.keys (columns header 0 cells)).Nodup) : ofValues header index cells =
      .ok (make (columns header 0 cells) (columnAliases header 0 cells) (some index)) :=
  @addColumns_of_nodup _ _ _ _ [] [] h

/-! ### Names by position -/

theorem positionalName_injective : Function.Injective positionalName := by
  intro i j h
  have hdigits : Nat.toDigits 10 i = Nat.toDigits 10 j := by
    simpa [positionalName, toString, Nat.toList_repr] using congrArg String.toList h
  rw [← @Nat.ofDigitChars_ten_toDigits i, hdigits, Nat.ofDigitChars_ten_toDigits]

/-- Without a header every name is one by position. -/
theorem columnName_nil (column : Nat) : columnName [] column = positionalName column := rfl

theorem nodup_keys_columns_nil (column : Nat) (cells : List String) :
    (Entries.keys (columns [] column cells)).Nodup := by
  have hnames : columnName [] = positionalName := funext columnName_nil
  rw [keys_columns, hnames]
  exact List.Nodup.map positionalName_injective List.nodup_range'

end Row

end RowAlert
