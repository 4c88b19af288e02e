import RowAlert.Loading
import RowAlert.Proofs.Except
/-!
# RowAlert.Proofs.Loading

**What is known of loaded files.**

Rows that are loaded know their index: only a bare record of cells has none, and no table is read as
such. Rule files can be compared, since JSON values can, so what a text holds is found out by reading
it.
-/

namespace RowAlert

theorem Row.index_of_addColumns {header : List String} {index : Int} {cells : List String} {row : Row}
    {column : Nat} {fields aliases : Entries String String}
    (h : addColumns header index column fields aliases cells = .ok row) : row.index = some index := by
  induction cells generalizing column fields aliases with
  | nil =>
    rw [addColumns] at h
    rw [← Except.ok.inj h]
    rfl
  | cons cell cells ih =>
    rw [addColumns] at h
    split at h
    · cases h
    · exact ih h

namespace Table

theorem index_of_rowsFrom {separator : String} {header : List String} {index : Nat}
    {lines : List (List Char)} {rows : List Row} (h : rowsFrom separator header index lines = .ok rows) :
    ∀ row ∈ rows, row.index.isSome := by
  induction lines generalizing index rows with
  | nil =>
    rw [rowsFrom] at h
    obtain rfl := Except.ok.inj h
    exact fun _ hmem => nomatch hmem
  | cons line lines ih =>
    rw [rowsFrom] at h
    obtain ⟨row, hrow, hlater⟩ := exists_of_bind_eq_ok h
    obtain ⟨rest, hrest, hrows⟩ := exists_of_bind_eq_ok hlater
    obtain rfl := Except.ok.inj hrows
    refine List.forall_mem_cons.2 ⟨?_, ih hrest⟩
    rw [Row.index_of_addColumns hrow]
    rfl

theorem index_of_rows {format : TableFormat} {text : String} {found : List Row}
    (h : rows format text = .ok found) : ∀ row ∈ found, row.index.isSome := by
  unfold rows at h
  dsimp only at h
  split at h
  · obtain rfl := Except.ok.inj h
    exact fun _ hmem => nomatch hmem
  · split at h
    · cases h
    · split at h
      · cases h
      · have hlines := eq_ok_of_mapError h
        unfold rowsOfLines at hlines
        split at hlines
        · obtain rfl := Except.ok.inj hlines
          exact fun _ hmem => nomatch hmem
        · split at hlines <;> exact index_of_rowsFrom hlines

theorem index_of_load {files : Files} {format : TableFormat} {path : String} {found : List Row}
    {notices : List Notice} (h : load files format path = .ok (found, notices)) :
    ∀ row ∈ found, row.index.isSome := by
  unfold load at h
  obtain ⟨written, -, hrest⟩ := exists_of_bind_eq_ok h
  obtain ⟨rows, hrows, hload⟩ := exists_of_bind_eq_ok hrest
  obtain ⟨rfl, -⟩ := Prod.mk.inj (Except.ok.inj hload)
  exact index_of_rows (eq_ok_of_mapError hrows)

end Table

/-! ### Comparing rule files -/

namespace Json

mutual

/-- Are two values the same? -/
def same : Json → Json → Bool
  | null, null => true
  | bool a, bool b => a = b
  | int a, int b => a = b
  | float a, float b => a = b
  | str a, str b => a = b
  | arr as, arr bs => sameItems as bs
  | obj as, obj bs => sameFields as bs
  | _, _ => false

/-- Are the items of two arrays the same? -/
def sameItems : List Json → List Json → Bool
  | [], [] => true
  | a :: as, b :: bs => a.same b && sameItems as bs
  | _, _ => false

/-- Are the fields of two objects the same? -/
def sameFields : List (String × Json) → List (String × Json) → Bool
  | [], [] => true
  | (name, a) :: as, (name', b) :: bs => name = name' && a.same b && sameFields as bs
  | _, _ => false

end

mutual

theorem same_iff (a b : Json) : a.same b = true ↔ a = b := by
  cases a with
  | arr as => cases b <;> simp [same, sameItems_iff as]
  | obj as => cases b <;> simp [same, sameFields_iff as]
  | _ => cases b <;> simp [same]

theorem sameItems_iff (as bs : List Json) : sameItems as bs = true ↔ as = bs := by
  cases as with
  | nil => cases bs <;> simp [sameItems]
  | cons a as => cases bs <;> simp [sameItems, same_iff a, sameItems_iff as]

theorem sameFields_iff (as bs : List (String × Json)) : sameFields as bs = true ↔ as = bs := by
  match as, bs with
  | [], [] => simp [sameFields]
  | [], _ :: _ => simp [sameFields]
  | _ :: _, [] => simp [sameFields]
  | (name, a) :: as, (name', b) :: bs => simp [sameFields, same_iff a, sameFields_iff as]

end

instance : DecidableEq Json := fun a b => decidable_of_iff _ (same_iff a b)

end Json

deriving instance DecidableEq for RuleFile

end RowAlert
