/-!
# RowAlert.Entries

**Ordered entries**: pairs of a key and a value, each key once, in order of first insertion.

Rows, JSON objects, channel registries and counts per rule are all kept this way, because their
order shows in what the program writes. A later value for a key replaces the earlier one and keeps
its place. Keys stay distinct under every operation (`nodup_keys_put`), and a lookup after an
insertion sees the inserted value and nothing else (`get?_put`).
-/

namespace RowAlert

/-- Pairs in order. -/
abbrev Entries (κ α : Type) := List (κ × α)

namespace Entries

variable {κ α : Type}

/-- The keys in order. -/
def keys (es : Entries κ α) : List κ := es.map Prod.fst

@[simp] theorem keys_nil : keys ([] : Entries κ α) = [] := rfl

@[simp] theorem keys_cons (p : κ × α) (es : Entries κ α) : keys (p :: es) = p.1 :: keys es := rfl

variable [DecidableEq κ]

/-- The value of a key. -/
def get? : Entries κ α → κ → Option α
  | [], _ => none
  | (k, a) :: es, key => if k = key then some a else get? es key

/-- Is the key present? -/
def has (es : Entries κ α) (key : κ) : Bool := (get? es key).isSome

/-- Gives a key a value: in its place if the key is present, else at the end. -/
def put : Entries κ α → κ → α → Entries κ α
  | [], key, value => [(key, value)]
  | (k, a) :: es, key, value => if k = key then (k, value) :: es else (k, a) :: put es key value

/-- Gives a key a value unless it has one. -/
def putDefault (es : Entries κ α) (key : κ) (value : α) : Entries κ α :=
  if has es key then es else put es key value

/-- Puts several pairs, one after the other. -/
def putAll (es : Entries κ α) (pairs : List (κ × α)) : Entries κ α :=
  pairs.foldl (fun acc (k, a) => put acc k a) es

/-- The entries that pairs make: the last value of a key counts, in its first place. -/
def ofPairs (pairs : List (κ × α)) : Entries κ α := putAll [] pairs

theorem get?_put (es : Entries κ α) (k key : κ) (a : α) :
    get? (put es k a) key = if k = key then some a else get? es key := by
  induction es with
  | nil => simp [put, get?]
  | cons p es ih =>
    obtain ⟨k', a'⟩ := p
    by_cases h : k' = k
    · subst h; by_cases hk : k' = key <;> simp [put, get?, hk]
    · by_cases hk : k' = key
      · subst hk; simp [put, get?, h, Ne.symm h]
      · simp [put, get?, h, hk, ih]

theorem get?_isSome_iff {es : Entries κ α} {key : κ} : (get? es key).isSome ↔ key ∈ keys es := by
  induction es with
  | nil => simp [get?]
  | cons p es ih =>
    obtain ⟨k, a⟩ := p
    by_cases h : k = key
    · simp [get?, h]
    · simp [get?, h, ih, Ne.symm h]

theorem has_iff {es : Entries κ α} {key : κ} : has es key = true ↔ key ∈ keys es := get?_isSome_iff

theorem keys_put (es : Entries κ α) (k : κ) (a : α) :
    keys (put es k a) = if k ∈ keys es then keys es else keys es ++ [k] := by
  induction es with
  | nil => simp [put]
  | cons p es ih =>
    obtain ⟨k', a'⟩ := p
    by_cases h : k' = k
    · simp [put, h]
    · by_cases hk : k ∈ keys es <;> simp_all [put, Ne.symm h]

theorem nodup_keys_put {es : Entries κ α} (h : (keys es).Nodup) (k : κ) (a : α) :
    (keys (put es k a)).Nodup := by
  rw [keys_put]
  split
  · exact h
  · rename_i hk
    exact List.nodup_append.2 ⟨h, by simp, by rintro x hx y hy; simp at hy; subst hy; grind⟩

theorem nodup_keys_putAll {es : Entries κ α} (h : (keys es).Nodup) (pairs : List (κ × α)) :
    (keys (putAll es pairs)).Nodup := by
  induction pairs generalizing es with
  | nil => exact h
  | cons p pairs ih => exact ih (nodup_keys_put h p.1 p.2)

theorem nodup_keys_ofPairs (pairs : List (κ × α)) : (keys (ofPairs pairs)).Nodup :=
  @nodup_keys_putAll _ _ _ [] List.nodup_nil pairs

end Entries

end RowAlert
