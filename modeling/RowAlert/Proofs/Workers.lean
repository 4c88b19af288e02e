import Mathlib.Data.List.Basic
import RowAlert.Proofs.Session
import RowAlert.Workers
/-!
# RowAlert.Proofs.Workers

**What workers gather.**

One worker does its work from the first piece to the last, so gathering is going through the list
(`gather_of_single`). Several workers may do it in every order. Every piece has a slot of its own
and every slot is written, so work of which the value is known gives its values in the order of the
work, and what it leaves behind is left in the order in which it was done (`Sequential.gather`). This
is a case of work that passes a state on: each piece finds the state that the one done before it left,
and its value depends on that (`Threaded.gather`). If each piece of work is quiet, the order shows in
nothing but the notices (`gather_quiet`).
-/

namespace RowAlert.Workers

/-! ### One worker -/

section

variable {m : Type → Type} [Monad m] [LawfulMonad m] {α β : Type}

/-- In order, the slots in front are full and those behind are empty. -/
theorem fill_inOrder (work : α → m β) (todo : List α) : ∀ (past : List α) (results : List β),
    results.length = past.length →
    fill work (past ++ todo) (List.range' past.length todo.length)
        (results.map some ++ todo.map fun _ => none)
      = (fun rs => (results ++ rs).map some) <$> todo.mapM work := by
  induction todo with
  | nil =>
    intro past results hlength
    simp [fill]
  | cons task todo ih =>
    intro past results hlength
    have htask : (past ++ task :: todo)[past.length]? = some task := by simp
    have hset : ∀ result, (results.map some ++ (task :: todo).map fun _ => none).set past.length
        (some result) = (results ++ [result]).map some ++ todo.map fun _ => none := by
      intro result
      rw [List.set_append_right _ _ (by simp [hlength])]
      simp [hlength]
    have hnext : ∀ result, fill work (past ++ task :: todo)
        (List.range' (past.length + 1) todo.length)
        ((results ++ [result]).map some ++ todo.map fun _ => none)
          = (fun rs => (results ++ [result] ++ rs).map some) <$> todo.mapM work := by
      intro result
      have h := ih (past ++ [task]) (results ++ [result]) (by simp [hlength])
      rwa [List.append_assoc, List.singleton_append, List.length_append, List.length_singleton] at h
    simp only [List.length_cons, List.range'_succ, fill, htask, hset, hnext, List.mapM_cons]
    simp [List.append_assoc]

/-- One worker goes through the work in order. -/
theorem gather_of_single {w : Workers} (h : w.count = 1) (work : α → m β) (tasks : List α) :
    w.gather work tasks = tasks.mapM work := by
  have horder : w.order tasks.length = List.range' 0 tasks.length := by
    simp [order, h, List.range_eq_range']
  have hfill := fill_inOrder work tasks [] [] rfl
  rw [List.nil_append, List.map_nil, List.nil_append, List.length_nil] at hfill
  rw [gather, horder, hfill]
  simp

end

/-! ### Several workers -/

section

variable {α β γ : Type}

/-- The work in the order in which it is done. -/
def sequence (w : Workers) (tasks : List α) : List α :=
  (w.order tasks.length).filterMap (tasks[·]?)

/-- The slots after the work of one is done. -/
def written (f : α → β) (tasks : List α) (slots : List (Option β)) (i : Nat) : List (Option β) :=
  match tasks[i]? with
  | some task => slots.set i (some (f task))
  | none => slots

theorem written_of_some {tasks : List α} {i : Nat} {task : α} (h : tasks[i]? = some task)
    (f : α → β) (slots : List (Option β)) :
    written f tasks slots i = slots.set i (some (f task)) := by
  simp only [written, h]

theorem written_of_none {tasks : List α} {i : Nat} (h : tasks[i]? = none) (f : α → β)
    (slots : List (Option β)) : written f tasks slots i = slots := by
  simp only [written, h]

theorem length_written (f : α → β) (tasks : List α) (slots : List (Option β)) (i : Nat) :
    (written f tasks slots i).length = slots.length := by
  unfold written
  split <;> simp

/-- A slot holds its result once its index was among those written. -/
theorem getElem?_foldl_written (f : α → β) (tasks : List α) {j : Nat} {task : α}
    (hj : tasks[j]? = some task) (is : List Nat) (slots : List (Option β)) (hlt : j < slots.length) :
    (is.foldl (written f tasks) slots)[j]?
      = if j ∈ is then some (some (f task)) else slots[j]? := by
  induction is generalizing slots with
  | nil => simp
  | cons i is ih =>
    rw [List.foldl_cons, ih _ (by rw [length_written]; exact hlt)]
    by_cases hij : i = j
    · subst hij
      simp [written_of_some hj, hlt]
    · have hother : (written f tasks slots i)[j]? = slots[j]? := by
        unfold written
        split
        · rw [List.getElem?_set_ne hij]
        · rfl
      simp [hother, Ne.symm hij]

theorem length_foldl_written (f : α → β) (tasks : List α) (is : List Nat)
    (slots : List (Option β)) : (is.foldl (written f tasks) slots).length = slots.length := by
  induction is generalizing slots with
  | nil => rfl
  | cons i is ih => rw [List.foldl_cons, ih, length_written]

theorem order_perm (w : Workers) (amount : Nat) : (w.order amount).Perm (List.range amount) := by
  unfold order
  split
  · exact .refl _
  · exact w.schedule.perm amount

/-- All slots are written, each with its own result. -/
theorem foldl_written_order (w : Workers) (f : α → β) (tasks : List α) :
    (w.order tasks.length).foldl (written f tasks) (tasks.map fun _ => none)
      = tasks.map fun task => some (f task) := by
  apply List.ext_getElem?
  intro j
  rcases Nat.lt_or_ge j tasks.length with hlt | hge
  · have hj : tasks[j]? = some tasks[j] := List.getElem?_eq_getElem hlt
    have hmem : j ∈ w.order tasks.length :=
      (w.order_perm tasks.length).mem_iff.2 (List.mem_range.2 hlt)
    rw [getElem?_foldl_written f tasks hj _ _ (by simpa using hlt), if_pos hmem,
      List.getElem?_map, hj, Option.map_some]
  · rw [List.getElem?_eq_none (by rw [length_foldl_written, List.length_map]; exact hge),
      List.getElem?_eq_none (by rw [List.length_map]; exact hge)]

theorem filterMap_range (tasks : List α) :
    (List.range tasks.length).filterMap (tasks[·]?) = tasks := by
  induction tasks with
  | nil => rfl
  | cons task tasks ih =>
    have hrest : (List.map Nat.succ (List.range tasks.length)).filterMap ((task :: tasks)[·]?)
        = tasks := by
      rw [List.filterMap_map]
      exact ih
    rw [List.length_cons, List.range_succ_eq_map]
    exact congrArg (task :: ·) hrest

/-- Several workers do the same work in another order. -/
theorem sequence_perm (w : Workers) (tasks : List α) : (w.sequence tasks).Perm tasks := by
  have h := (w.order_perm tasks.length).filterMap (tasks[·]?)
  rwa [filterMap_range] at h

theorem sequence_of_single {w : Workers} (h : w.count = 1) (tasks : List α) :
    w.sequence tasks = tasks := by
  have horder : w.order tasks.length = List.range tasks.length := by simp [order, h]
  rw [sequence, horder, filterMap_range]

theorem sequence_map (w : Workers) (f : α → β) (tasks : List α) :
    w.sequence (tasks.map f) = (w.sequence tasks).map f := by
  simp [sequence, List.map_filterMap]

theorem foldl_written_congr {f f' : α → β} {tasks : List α} {is : List Nat}
    (h : ∀ i ∈ is, ∀ task, tasks[i]? = some task → f task = f' task) (slots : List (Option β)) :
    is.foldl (written f tasks) slots = is.foldl (written f' tasks) slots := by
  refine List.foldl_ext _ _ _ fun slots i hi => ?_
  cases htask : tasks[i]? with
  | none => rw [written_of_none htask, written_of_none htask]
  | some task => rw [written_of_some htask, written_of_some htask, h i hi task htask]

theorem snd_of_zipIdx {tasks : List α} {i : Nat} {p : α × Nat} (h : tasks.zipIdx[i]? = some p) :
    p.2 = i := by
  rw [List.getElem?_zipIdx, Option.map_eq_some_iff] at h
  obtain ⟨a, -, rfl⟩ := h
  exact Nat.zero_add i

end

/-! ### Work that passes a state on -/

section

variable {α β γ σ : Type} {m : Type → Type} [Monad m]

/-- A judgement about activities from one state to another, the values they give and what they leave
behind, that passes from parts to a sequence of them. The states satisfy an invariant. -/
structure Threaded (I : σ → Prop) (P : (β : Type) → σ → m β → β → List γ → σ → Prop) : Prop where
  pure {β : Type} {s : σ} (hs : I s) (b : β) : P β s (Pure.pure b) b [] s
  bind {β δ : Type} {s s' s'' : σ} {x : m β} {f : β → m δ} {b : β} {d : δ} {es fs : List γ}
    (hx : P β s x b es s') (hf : P δ s' (f b) d fs s'') : P δ s (x >>= f) d (es ++ fs) s''
  keeps {β : Type} {s s' : σ} {x : m β} {b : β} {es : List γ} (hx : P β s x b es s') : I s'

variable {I : σ → Prop} {P : (β : Type) → σ → m β → β → List γ → σ → Prop}

-- By induction on the order; `state i` is the state in which the piece at `i` is done. Each piece is
-- done once, so what follows the first piece does not ask for the state of that one.
theorem Threaded.fill (hP : Threaded I P) {work : α → m β} {f : σ → α → β} {g : σ → α → List γ}
    {tasks : List α}
    (hwork : ∀ task ∈ tasks, ∀ s, I s → ∃ s', P β s (work task) (f s task) (g s task) s')
    (is : List Nat) (hnodup : is.Nodup) (slots : List (Option β)) {s : σ} (hs : I s) :
    ∃ (state : Nat → σ) (s' : σ), P _ s (Workers.fill work tasks is slots)
      (is.foldl (written (fun p => f (state p.2) p.1) tasks.zipIdx) slots)
      ((is.filterMap (tasks.zipIdx[·]?)).flatMap fun p => g (state p.2) p.1) s' := by
  induction is generalizing slots s with
  | nil => exact ⟨fun _ => s, s, hP.pure hs slots⟩
  | cons i is ih =>
    obtain ⟨hi, hnodup⟩ := List.nodup_cons.1 hnodup
    cases htask : tasks[i]? with
    | none =>
      have hpair : tasks.zipIdx[i]? = none := by simp [htask]
      obtain ⟨state, s', h⟩ := ih hnodup slots hs
      refine ⟨state, s', ?_⟩
      rw [List.foldl_cons, written_of_none hpair, List.filterMap_cons_none hpair, Workers.fill, htask]
      exact h
    | some task =>
      have hpair : tasks.zipIdx[i]? = some (task, i) := by simp [htask]
      obtain ⟨s₁, hfirst⟩ := hwork task (List.mem_of_getElem? htask) s hs
      obtain ⟨later, s', hrest⟩ := ih hnodup (slots.set i (some (f s task))) (hP.keeps hfirst)
      obtain ⟨state, hnow, hlater⟩ : ∃ state : Nat → σ, state i = s ∧ ∀ j ∈ is, state j = later j :=
        ⟨fun j => if j = i then s else later j, if_pos rfl,
          fun j hj => if_neg (ne_of_mem_of_not_mem hj hi)⟩
      have hslots : is.foldl (written (fun p => f (state p.2) p.1) tasks.zipIdx)
            (slots.set i (some (f s task)))
          = is.foldl (written (fun p => f (later p.2) p.1) tasks.zipIdx)
              (slots.set i (some (f s task))) :=
        foldl_written_congr (fun j hj p hp => by rw [snd_of_zipIdx hp, hlater j hj]) _
      have hleft : (is.filterMap (tasks.zipIdx[·]?)).flatMap (fun p => g (state p.2) p.1)
          = (is.filterMap (tasks.zipIdx[·]?)).flatMap fun p => g (later p.2) p.1 := by
        refine List.flatMap_congr fun p hp => ?_
        obtain ⟨j, hj, hjp⟩ := List.mem_filterMap.1 hp
        rw [snd_of_zipIdx hjp, hlater j hj]
      refine ⟨state, s', ?_⟩
      rw [List.foldl_cons, written_of_some hpair, List.filterMap_cons_some hpair, List.flatMap_cons,
        Workers.fill, htask, hnow, hslots, hleft]
      exact hP.bind hfirst hrest

/-- Work that passes a state on: each piece is done in some state, the values stand in the order of
the work, and what is left behind is left in the order in which it was done. -/
theorem Threaded.gather (hP : Threaded I P) {work : α → m β} {f : σ → α → β} {g : σ → α → List γ}
    {tasks : List α}
    (hwork : ∀ task ∈ tasks, ∀ s, I s → ∃ s', P β s (work task) (f s task) (g s task) s')
    (w : Workers) {s : σ} (hs : I s) :
    ∃ (steps : List (σ × α)) (s' : σ), steps.map Prod.snd = tasks ∧
      P _ s (w.gather work tasks) (steps.map fun p => f p.1 p.2)
        ((w.sequence steps).flatMap fun p => g p.1 p.2) s' := by
  have hnodup : (w.order tasks.length).Nodup := (w.order_perm _).nodup_iff.2 List.nodup_range
  obtain ⟨state, s', hfill⟩ := hP.fill hwork _ hnodup (tasks.map fun _ => none) hs
  have hlength : tasks.zipIdx.length = tasks.length := List.length_zipIdx
  have hempty : (tasks.map fun _ => (none : Option β)) = tasks.zipIdx.map fun _ => none := by
    simp [List.map_const']
  have hslots := foldl_written_order w (fun p : α × Nat => f (state p.2) p.1) tasks.zipIdx
  rw [hlength, ← hempty] at hslots
  rw [hslots] at hfill
  refine ⟨tasks.zipIdx.map fun p => (state p.2, p.1), s', ?_, ?_⟩
  · rw [List.map_map]
    exact List.zipIdx_map_fst 0 tasks
  · have hresults : (tasks.zipIdx.map fun p => (state p.2, p.1)).map (fun p => f p.1 p.2)
        = (tasks.zipIdx.map fun p => some (f (state p.2) p.1)).filterMap id := by
      simp [List.filterMap_map]
    have hleft : (w.sequence (tasks.zipIdx.map fun p => (state p.2, p.1))).flatMap
          (fun p => g p.1 p.2)
        = ((w.order tasks.length).filterMap (tasks.zipIdx[·]?)).flatMap
            fun p => g (state p.2) p.1 := by
      rw [sequence_map, List.flatMap_map, sequence, hlength]
    rw [hresults, hleft, ← List.append_nil (List.flatMap _ _)]
    exact hP.bind hfill (hP.pure (hP.keeps hfill) _)

end

/-! ### Work of which the values are known -/

section

variable {α β γ : Type} {m : Type → Type} [Monad m] {P : (β : Type) → m β → β → List γ → Prop}

/-- A judgement about activities, the values they give and what they leave behind, that passes from
parts to a sequence of them. -/
structure Sequential (P : (β : Type) → m β → β → List γ → Prop) : Prop where
  pure {β : Type} (b : β) : P β (Pure.pure b) b []
  bind {β δ : Type} {x : m β} {f : β → m δ} {b : β} {d : δ} {es fs : List γ} (hx : P β x b es)
    (hf : P δ (f b) d fs) : P δ (x >>= f) d (es ++ fs)

/-- There is nothing to pass on. -/
theorem Sequential.threaded (hP : Sequential P) :
    Threaded (fun _ : Unit => True) fun β _ x b es _ => P β x b es :=
  ⟨fun _ => hP.pure, hP.bind, fun _ => trivial⟩

/-- Work of which the values are known gives them in the order of the work, whatever the order it is
done in. -/
theorem Sequential.gather (hP : Sequential P) {work : α → m β} {f : α → β} {g : α → List γ}
    {tasks : List α} (hwork : ∀ task ∈ tasks, P β (work task) (f task) (g task)) (w : Workers) :
    P _ (w.gather work tasks) (tasks.map f) ((w.sequence tasks).flatMap g) := by
  obtain ⟨steps, -, rfl, h⟩ := hP.threaded.gather (f := fun _ => f) (g := fun _ => g)
    (fun task htask _ _ => ⟨(), hwork task htask⟩) w (s := ()) trivial
  rw [sequence_map, List.map_map, List.flatMap_map]
  exact h

theorem sequential_quiet {ω : Type} :
    Sequential (γ := Empty) fun _ (x : Session ω _) b _ => x.Quiet b :=
  ⟨.pure, .bind⟩

/-- Quiet work gives its results in the order of the work, whatever the order it is done in. -/
theorem gather_quiet {ω : Type} {work : α → Session ω β} {f : α → β}
    (hwork : ∀ a, (work a).Quiet (f a)) (w : Workers) (tasks : List α) :
    (w.gather work tasks).Quiet (tasks.map f) :=
  sequential_quiet.gather (g := fun _ => []) (fun task _ => hwork task) w

end

end RowAlert.Workers
