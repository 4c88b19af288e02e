import RowAlert.Entries
/-!
# RowAlert.Proofs.Entries

**Looking up keys** in entries that are taken apart or put together.
-/

namespace RowAlert

namespace Entries

variable {κ α : Type} [DecidableEq κ]

theorem filter_put (es : Entries κ α) (p : κ → Bool) (k : κ) (a : α) :
    (put es k a).filter (fun e => p e.1)
      = if p k then put (es.filter fun e => p e.1) k a else es.filter fun e => p e.1 := by
  induction es with
  | nil => by_cases hk : p k <;> simp [put, hk]
  | cons e es ih =>
    obtain ⟨k', a'⟩ := e
    by_cases heq : k' = k
    · subst heq
      by_cases hk : p k' <;> simp [put, hk]
    · by_cases hk' : p k'
      · by_cases hk : p k <;> simp_all [put]
      · by_cases hk : p k <;> simp_all [put]

theorem get?_filter (es : Entries κ α) {p : κ → Bool} {k : κ} (hk : p k = true) :
    get? (es.filter fun e => p e.1) k = get? es k := by
  induction es with
  | nil => rfl
  | cons e es ih =>
    obtain ⟨k', a'⟩ := e
    by_cases heq : k' = k
    · subst heq
      simp [get?, hk]
    · by_cases hk' : p k' <;> simp [get?, hk', heq, ih]

/-- A new key comes last. -/
theorem put_of_not_mem {es : Entries κ α} {k : κ} (h : k ∉ keys es) (a : α) :
    put es k a = es ++ [(k, a)] := by
  induction es with
  | nil => rfl
  | cons e es ih =>
    rw [keys_cons, List.mem_cons, not_or] at h
    rw [put, if_neg (Ne.symm h.1), ih h.2, List.cons_append]

theorem get?_eq_none_iff {es : Entries κ α} {k : κ} : get? es k = none ↔ k ∉ keys es := by
  rw [← get?_isSome_iff, Option.not_isSome_iff_eq_none]

theorem get?_append (es later : Entries κ α) (k : κ) :
    get? (es ++ later) k = (get? es k).or (get? later k) := by
  induction es with
  | nil => simp [get?]
  | cons e es ih =>
    obtain ⟨k', a'⟩ := e
    by_cases heq : k' = k <;> simp [get?, heq, ih]

/-- With different keys, every entry is found. -/
theorem get?_of_mem {es : Entries κ α} (hkeys : (keys es).Nodup) {k : κ} {a : α} (h : (k, a) ∈ es) :
    get? es k = some a := by
  induction es with
  | nil => cases h
  | cons e es ih =>
    obtain ⟨k', a'⟩ := e
    simp only [keys_cons, List.nodup_cons] at hkeys
    rcases List.mem_cons.1 h with heq | hmem
    · obtain ⟨rfl, rfl⟩ := Prod.mk.inj heq
      simp [get?]
    · have hne : k' ≠ k := by
        intro heq
        subst heq
        exact hkeys.1 (List.mem_map_of_mem hmem)
      simp [get?, hne, ih hkeys.2 hmem]

end Entries

end RowAlert
