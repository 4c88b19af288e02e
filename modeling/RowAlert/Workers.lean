/-!
# RowAlert.Workers

**Workers** that do a list of work in any order.

Each piece of work has a slot for its result, and whoever does the work writes that slot and no
other. In which order the pieces are done is up to a `Schedule`: one worker goes from the first to
the last, several may go in every order there is. The results are taken from the slots in the order
of the work.
-/

namespace RowAlert

/-- How several workers go through some amount of work. -/
structure Schedule where
  order : Nat → List Nat
  /-- Each piece of work is done once. -/
  perm : ∀ n, (order n).Perm (List.range n)

namespace Schedule

/-- From the first to the last. -/
def inOrder : Schedule := ⟨List.range, fun _ => .refl _⟩

end Schedule

/-- Workers, one at least. -/
structure Workers where
  count : Nat
  count_pos : 0 < count
  /-- What they do if they are several. -/
  schedule : Schedule

namespace Workers

/-- As many workers as asked for, but one at least. -/
def ofCount (count : Int) (schedule : Schedule) : Workers :=
  ⟨max 1 count.toNat, by omega, schedule⟩

/-- The order in which the workers do some amount of work. -/
def order (w : Workers) (amount : Nat) : List Nat :=
  if w.count = 1 || amount ≤ 1 then List.range amount else w.schedule.order amount

variable {m : Type → Type} [Monad m] {α β : Type}

/-- Does the work of some slots, in the order of the list. -/
def fill (work : α → m β) (tasks : List α) : List Nat → List (Option β) → m (List (Option β))
  | [], slots => pure slots
  | i :: is, slots =>
    match tasks[i]? with
    | some task => do
      let result ← work task
      fill work tasks is (slots.set i (some result))
    | none => fill work tasks is slots

/-- Does all the work; the results are in the order of the work. -/
def gather (w : Workers) (work : α → m β) (tasks : List α) : m (List β) := do
  -- Every slot is written, since the order holds every index.
  let slots ← fill work tasks (w.order tasks.length) (tasks.map fun _ => none)
  return slots.filterMap id

end Workers

end RowAlert
