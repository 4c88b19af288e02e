import Mathlib.Data.List.Infix
import Mathlib.Data.Option.Basic
import RowAlert.Proofs.Condition.Compiling
import RowAlert.Proofs.Except
/-!
# RowAlert.Proofs.Condition.Refusal

**Where a text that is no condition is refused.**

The reader is right about beginnings: what it has taken can always be completed
(`State.Spells.viable`), and it takes everything that can be completed (`exists_run_of_viable`). So the
token that it refuses is the first one that no condition could have there, and the complaint points at
it. There is one exception. A level of parentheses that is complete, and goes on with something else
than its closing parenthesis, makes the complaint point at its opening parenthesis; the machine keeps
the places of those that are open, the innermost first (`unclosed_eq_openings`).
-/

namespace RowAlert.Condition

open State

/-! ### Beginnings of conditions -/

/-- The symbols of a condition: its lexemes, and the end of the text, which is no lexeme. -/
def OrExpr.symbols (d : OrExpr) : List (Option Lexeme) := d.lexemes.map some ++ [none]

/-- Some condition begins with the symbols. -/
def Viable (symbols : List (Option Lexeme)) : Prop := ∃ d : OrExpr, symbols <+: d.symbols

/-- The symbols of a text, the end among them. -/
def symbolsOf (ts : List Token) : List (Option Lexeme) := (ts.map Token.lexeme).map some ++ [none]

/-- Where the symbols of a text stand, the text being over at `stop`. -/
def placesOf (ts : List Token) (stop : Nat) : List Nat := ts.map Token.start ++ [stop]

/-- The symbol at position `k` is the first one with which the symbols begin no condition. -/
structure IsFirstImpossible (symbols : List (Option Lexeme)) (k : Nat) : Prop where
  lt_length : k < symbols.length
  viable : ∀ j < k, Viable (symbols.take (j + 1))
  not_viable : ¬Viable (symbols.take (k + 1))

/-- The parentheses that are open after a token; `opened` are the places of those open before it. -/
def openAfter (opened : List Nat) (t : Token) : List Nat :=
  match t.lexeme with
  | .opening => t.start :: opened
  | .closing => opened.tail
  | _ => opened

/-- The places of the parentheses that some tokens open and do not close, the innermost first. -/
def unclosed (ts : List Token) : List Nat := ts.foldl openAfter []

/-- A closing parenthesis could stand at position `k`, one is missing, and there is something else. -/
structure LacksClosing (ts : List Token) (k : Nat) : Prop where
  viable : Viable ((symbolsOf ts).take k ++ [some .closing])
  unclosed_ne_nil : unclosed (ts.take k) ≠ []
  symbol_ne : (symbolsOf ts)[k]? ≠ some (some .closing)

theorem Viable.of_prefix {ss ss' : List (Option Lexeme)} (h : ss <+: ss') (hs : Viable ss') :
    Viable ss := by
  obtain ⟨d, hd⟩ := hs
  exact ⟨d, h.trans hd⟩

theorem symbolsOf_take {ts us vs : List Token} (h : ts = us ++ vs) :
    (symbolsOf ts).take us.length = (us.map Token.lexeme).map some := by
  rw [symbolsOf, h, List.map_append, List.map_append, List.append_assoc]
  exact List.take_left' (by simp)

theorem none_not_mem_map_some (ls : List Lexeme) : none ∉ ls.map some := by simp

/-- The end of the text is behind everything, so symbols with the end among them are a whole condition. -/
theorem exists_of_viable_symbolsOf {ts : List Token} (h : Viable (symbolsOf ts)) :
    ∃ d : OrExpr, d.lexemes = ts.map Token.lexeme := by
  obtain ⟨d, hd⟩ := h
  refine ⟨d, List.map_injective_iff.2 (Option.some_injective _) ?_⟩
  rcases List.prefix_concat_iff.1 hd with hall | hinside
  · exact (List.append_cancel_right hall).symm
  · exact absurd (hinside.subset (List.mem_append_right _ List.mem_cons_self))
      (none_not_mem_map_some _)

/-- Lexemes that begin a condition are followed by others. -/
theorem exists_of_viable_lexemes {ls : List Lexeme} (h : Viable (ls.map some)) :
    ∃ (d : OrExpr) (rest : List Lexeme), d.lexemes = ls ++ rest := by
  obtain ⟨d, hd⟩ := h
  rcases List.prefix_concat_iff.1 hd with hall | hinside
  · have hend : none ∈ ls.map some := hall ▸ List.mem_append_right _ List.mem_cons_self
    exact absurd hend (none_not_mem_map_some _)
  · obtain ⟨rest, hrest⟩ := (List.prefix_map_iff_of_injective (Option.some_injective _)).1 hinside
    exact ⟨d, rest, hrest.symm⟩

/-! ### What was taken can be completed -/

/-- A condition inside parentheses and what is around them begin a condition. -/
theorem Around.completed {outer : List Level} {opened : Option Nat} {around : List Lexeme}
    (h : Around outer opened around) (d : OrExpr) :
    ∃ (e : OrExpr) (rest : List Lexeme), e.lexemes = around ++ (d.lexemes ++ rest) := by
  induction h generalizing d with
  | outermost => exact ⟨d, [], by rw [List.append_nil, List.nil_append]⟩
  | inside hls hms ih =>
    obtain ⟨level, -, hlevel⟩ := hms.chain (.group d)
    obtain ⟨e, rest, he⟩ := ih level
    refine ⟨e, .closing :: rest, ?_⟩
    rw [he, hlevel, Primary.lexemes]
    simp

/-- The beginning of a term begins a primary. -/
theorem Expected.Spells.completed {e : Expected} {ls : List Lexeme} (h : e.Spells ls) :
    ∃ (p : Primary) (rest : List Lexeme), p.lexemes = ls ++ rest := by
  let any : Atom := ⟨.text "", .literal (.text ""), .text ""⟩
  cases h with
  | term b => exact ⟨.operand any, [any.lexeme], rfl⟩
  | comparand left known => exact ⟨.comparison left _ known any, [any.lexeme], rfl⟩
  | relation left => exact ⟨.operand left, [], rfl⟩
  | connective p => exact ⟨p, [], (List.append_nil _).symm⟩

/-- What is behind a state begins a condition. -/
theorem State.Spells.viable {s : State} {ls : List Lexeme} (h : s.Spells ls) :
    Viable (ls.map some) := by
  obtain ⟨around, level, term, haround, hlevel, hterm, rfl⟩ := h
  obtain ⟨p, behind, hp⟩ := hterm.completed
  obtain ⟨d, -, hd⟩ := hlevel.chain p
  obtain ⟨e, rest, he⟩ := haround.completed d
  refine ⟨e, (behind ++ rest).map some ++ [none], ?_⟩
  rw [OrExpr.symbols, he, hd, hp]
  simp

/-! ### What can be completed is taken -/

namespace State

theorem exists_run_of_append {s s' : State} {ts us : List Token} (h : s.run (ts ++ us) = .ok s') :
    ∃ s₁, s.run ts = .ok s₁ ∧ s₁.run us = .ok s' := by
  rw [run, List.foldlM_append] at h
  exact exists_of_bind_eq_ok h

theorem run_singleton (s : State) (t : Token) : s.run [t] = s.step t := by
  rw [run, List.foldlM_cons]
  exact bind_pure (s.step t)

/-- A run that is refused is refused by one token, those before it being taken. -/
theorem exists_of_run_error {s : State} {ts : List Token} {refusal : Refusal}
    (h : s.run ts = .error refusal) :
    ∃ us t vs s', ts = us ++ t :: vs ∧ s.run us = .ok s' ∧ s'.step t = .error refusal := by
  induction ts generalizing s with
  | nil => cases h
  | cons t ts ih =>
    rw [run, List.foldlM_cons] at h
    rcases error_of_bind_eq_error h with hstep | ⟨next, hstep, hrest⟩
    · exact ⟨[], t, ts, s, rfl, rfl, hstep⟩
    · obtain ⟨us, u, vs, s', rfl, hrun, hrefused⟩ := ih hrest
      exact ⟨t :: us, u, vs, s', rfl, (run_cons_ok hstep us).trans hrun, hrefused⟩

end State

/-- Tokens that begin a condition are taken. -/
theorem exists_run_of_viable {ts : List Token} (h : Viable ((ts.map Token.lexeme).map some)) :
    ∃ s, State.initial.run ts = .ok s := by
  obtain ⟨d, rest, hd⟩ := exists_of_viable_lexemes h
  have hlexemes : (ts ++ rest.map (Token.mk · 0 0)).map Token.lexeme = d.lexemes := by
    rw [hd, List.map_append, List.map_map]
    simp [Function.comp_def]
  obtain ⟨s, hrun, -⟩ := d.run_ok (s := .initial) rfl rfl hlexemes
  obtain ⟨s', hrun', -⟩ := exists_run_of_append hrun
  exact ⟨s', hrun'⟩

/-- Tokens begin a condition exactly if they are taken. -/
theorem viable_iff_run {ts : List Token} (hts : ∀ t ∈ ts, t.lexeme.Proper) :
    Viable ((ts.map Token.lexeme).map some) ↔ ∃ s, State.initial.run ts = .ok s := by
  constructor
  · exact exists_run_of_viable
  · rintro ⟨s, hrun⟩
    exact (spells_of_run hrun hts spells_initial).viable

/-! ### Parentheses -/

namespace State

/-- The places of the parentheses that are open, the innermost first. -/
def openings (s : State) : List Nat := (s.level :: s.outer).filterMap Level.opened

/-- A closing parenthesis may come next. -/
def Closable (s : State) : Prop := (term? s.expected).isSome ∧ s.outer ≠ []

end State

/-- Around a level there is another one exactly if the level was opened. -/
theorem Around.opened_eq_none_iff {outer : List Level} {opened : Option Nat} {around : List Lexeme}
    (h : Around outer opened around) : opened = none ↔ outer = [] := by
  cases h <;> simp

theorem openAfter_of_ne {t : Token} (hopening : t.lexeme ≠ .opening) (hclosing : t.lexeme ≠ .closing)
    (opened : List Nat) : openAfter opened t = opened := by
  unfold openAfter
  split
  · exact absurd ‹_› hopening
  · exact absurd ‹_› hclosing
  · rfl

/-- An operand is no parenthesis. -/
theorem openAfter_of_operand {t : Token} {o : Operand} (h : operandOf? t.lexeme = some o)
    (opened : List Nat) : openAfter opened t = opened := by
  refine openAfter_of_ne ?_ ?_ opened <;>
    (intro hl; rw [hl] at h; cases h)

/-- A step opens and closes what its token does. -/
theorem State.Takes.openings_eq {s s' : State} {t : Token} {ls : List Lexeme} (h : s.Takes t s')
    (hs : s.Spells ls) : s'.openings = openAfter s.openings t := by
  obtain ⟨around, level, term, haround, -, -, -⟩ := hs
  cases h with
  | not he hl | relation he hl | and he hl | or he hl => simp only [openAfter, hl]; rfl
  | opening he hl => simp only [openAfter, hl]; rfl
  | operand he ho | comparand he ho => exact (openAfter_of_operand ho _).symm
  | closing he hl houter =>
    rw [houter] at haround
    cases hopened : s.level.opened with
    | none => rw [hopened] at haround; cases haround
    | some start => simp [openAfter, hl, openings, houter, hopened]

/-- The parentheses that are open in a state are those that its tokens left open. -/
theorem State.openings_of_run {s s' : State} {ts : List Token} {ls : List Lexeme}
    (h : s.run ts = .ok s') (hts : ∀ t ∈ ts, t.lexeme.Proper) (hs : s.Spells ls) :
    s'.openings = ts.foldl openAfter s.openings := by
  induction ts generalizing s ls with
  | nil =>
    obtain rfl := Except.ok.inj h
    rfl
  | cons t ts ih =>
    rw [run, List.foldlM_cons] at h
    obtain ⟨next, hstep, hrest⟩ := exists_of_bind_eq_ok h
    have htakes := takes_of_step hstep
    obtain ⟨ht, hts⟩ := List.forall_mem_cons.1 hts
    rw [ih hrest hts (htakes.spells ht hs), htakes.openings_eq hs, List.foldl_cons]

theorem unclosed_eq_openings {ts : List Token} {s : State} (h : State.initial.run ts = .ok s)
    (hts : ∀ t ∈ ts, t.lexeme.Proper) : unclosed ts = s.openings :=
  (openings_of_run h hts spells_initial).symm

theorem start_of_mem_foldl_openAfter {ts : List Token} {opened : List Nat} {n : Nat}
    (h : n ∈ ts.foldl openAfter opened) : n ∈ opened ∨ n ∈ ts.map Token.start := by
  induction ts generalizing opened with
  | nil => exact .inl h
  | cons t ts ih =>
    rw [List.map_cons, List.mem_cons]
    rcases ih h with hbefore | hlater
    · unfold openAfter at hbefore
      split at hbefore
      · rcases List.mem_cons.1 hbefore with rfl | hmem
        · exact .inr (.inl rfl)
        · exact .inl hmem
      · exact .inl (List.mem_of_mem_tail hbefore)
      · exact .inl hbefore
    · exact .inr (.inr hlater)

/-! ### Refusals -/

namespace State

/-- A state takes a closing parenthesis exactly if one may come next. -/
theorem exists_step_closing_iff {s : State} {t : Token} (ht : t.lexeme = .closing) :
    (∃ s', s.step t = .ok s') ↔ s.Closable := by
  constructor
  · rintro ⟨s', hstep⟩
    cases takes_of_step hstep with
    | closing hs _ houter => exact ⟨by rw [hs]; rfl, by rw [houter]; exact List.cons_ne_nil _ _⟩
    | not _ hl | opening _ hl | relation _ hl | and _ hl | or _ hl => rw [ht] at hl; cases hl
    | operand _ ho | comparand _ ho => rw [ht] at ho; cases ho
  · rintro ⟨hterm, houter⟩
    obtain ⟨term, hterm⟩ := Option.isSome_iff_exists.1 hterm
    obtain ⟨level, outer, houter⟩ := List.exists_cons_of_ne_nil houter
    rw [step_behind_term hterm (by simp [ht]), stepConnective, ht]
    simp only [houter]
    exact ⟨_, rfl⟩

/-- Where a complaint about a symbol at `place` points: at the parenthesis that is not closed if the
term in it is complete, else at the symbol. -/
def blamed (s : State) (place : Nat) : Nat :=
  if (term? s.expected).isSome then s.level.opened.getD place else place

theorem place_of_notOperand (t : Token) : (notOperand t).2 = t.start := by
  unfold notOperand
  split <;> rfl

theorem place_of_cannotFollow (l : Level) (t : Token) :
    (cannotFollow l t).2 = l.opened.getD t.start := by
  unfold cannotFollow
  split <;> simp [*]

theorem place_of_stepTerm {s : State} {b : Bool} {t : Token} {refusal : Refusal}
    (h : s.stepTerm b t = .error refusal) : refusal.2 = t.start := by
  unfold stepTerm at h
  split at h
  · cases h
  · cases h
  · rw [← Except.error.inj h]
  · split at h
    · cases h
    · rw [← Except.error.inj h, place_of_notOperand]

theorem place_of_stepConnective {s : State} {term : Condition} {t : Token} {refusal : Refusal}
    (h : s.stepConnective term t = .error refusal) : refusal.2 = s.level.opened.getD t.start := by
  unfold stepConnective at h
  split at h
  · cases h
  · cases h
  · split at h
    · rw [← Except.error.inj h, place_of_cannotFollow]
    · cases h
  · rw [← Except.error.inj h, place_of_cannotFollow]

theorem place_of_step {s : State} {t : Token} {refusal : Refusal}
    (h : s.step t = .error refusal) : refusal.2 = s.blamed t.start := by
  unfold blamed
  cases he : s.expected with
  | term opened =>
    simp only [step, he] at h
    exact place_of_stepTerm h
  | comparand left r =>
    simp only [step, he] at h
    split at h
    · cases h
    · rw [← Except.error.inj h, place_of_notOperand]
      rfl
  | relation left =>
    simp only [step, he] at h
    split at h
    · cases h
    · exact place_of_stepConnective h
  | connective term =>
    simp only [step, he] at h
    exact place_of_stepConnective h

theorem place_of_finish {s : State} {stop : Nat} {refusal : Refusal}
    (h : s.finish stop = .error refusal) : refusal.2 = s.blamed stop := by
  unfold finish at h
  unfold blamed
  split at h
  · rename_i hterm
    rw [← Except.error.inj h, hterm]
    rfl
  · rename_i term hterm
    split at h
    · rename_i start hopened
      rw [← Except.error.inj h, hterm, hopened]
      rfl
    · cases h

end State

/-! ### The refused symbol -/

section

variable {ts us vs : List Token} {s : State} (hts : ts = us ++ vs)
  (hproper : ∀ t ∈ ts, t.lexeme.Proper) (hrun : State.initial.run us = .ok s)

include hts hproper hrun

theorem spells_of_taken : s.Spells (us.map Token.lexeme) := by
  have hus : ∀ t ∈ us, t.lexeme.Proper := fun t ht => hproper t (hts ▸ List.mem_append_left vs ht)
  exact spells_of_run hrun hus spells_initial

theorem unclosed_of_taken : unclosed (ts.take us.length) = s.openings := by
  have hus : ∀ t ∈ us, t.lexeme.Proper := fun t ht => hproper t (hts ▸ List.mem_append_left vs ht)
  rw [hts, List.take_left' rfl, unclosed_eq_openings hrun hus]

/-- A closing parenthesis can stand behind what was taken exactly if the state takes one. -/
theorem viable_closing_iff :
    Viable ((symbolsOf ts).take us.length ++ [some .closing]) ↔ s.Closable := by
  have hsymbols : (symbolsOf ts).take us.length ++ [some .closing]
      = ((us ++ [Token.mk .closing 0 0]).map Token.lexeme).map some := by
    rw [symbolsOf_take hts]
    simp
  have hus : ∀ t ∈ us ++ [Token.mk .closing 0 0], t.lexeme.Proper := by
    intro t ht
    rcases List.mem_append.1 ht with hmem | hlast
    · exact hproper t (hts ▸ List.mem_append_left vs hmem)
    · obtain rfl := List.mem_singleton.1 hlast
      trivial
  rw [hsymbols, viable_iff_run hus, run_append_ok hrun, run_singleton, exists_step_closing_iff rfl]

/-- Inside parentheses the innermost ones are blamed, if they could be closed. -/
theorem blamed_of_closable (hs : s.Closable) (place : Nat) :
    (unclosed (ts.take us.length)).head? = some (s.blamed place) := by
  obtain ⟨around, -, -, haround, -⟩ := spells_of_taken hts hproper hrun
  obtain ⟨start, hopened⟩ := Option.ne_none_iff_exists'.1
    fun hnone => hs.2 (haround.opened_eq_none_iff.1 hnone)
  rw [unclosed_of_taken hts hproper hrun, openings, List.filterMap_cons_some hopened, blamed,
    if_pos hs.1, hopened]
  rfl

/-- Otherwise the symbol is. -/
theorem blamed_of_not_closable (hs : ¬s.Closable) (place : Nat) : s.blamed place = place := by
  obtain ⟨around, -, -, haround, -⟩ := spells_of_taken hts hproper hrun
  unfold blamed
  split
  · rename_i hterm
    have houter : s.outer = [] := by
      by_contra houter
      exact hs ⟨hterm, houter⟩
    rw [haround.opened_eq_none_iff.2 houter]
    rfl
  · rfl

theorem blamed_le {place stop : Nat} (hplace : place ≤ stop) (hstarts : ∀ t ∈ ts, t.start ≤ stop) :
    s.blamed place ≤ stop := by
  by_cases hs : s.Closable
  · have hmem := List.mem_of_mem_head? (blamed_of_closable hts hproper hrun hs place)
    rcases start_of_mem_foldl_openAfter hmem with hnil | hstart
    · cases hnil
    · obtain ⟨t, ht, heq⟩ := List.mem_map.1 hstart
      exact heq ▸ hstarts t (List.mem_of_mem_take ht)
  · rw [blamed_of_not_closable hts hproper hrun hs]
    exact hplace

/-- The symbol behind what was taken is the first impossible one, if it cannot be there. -/
theorem isFirstImpossible_of_taken (h : ¬Viable ((symbolsOf ts).take (us.length + 1))) :
    IsFirstImpossible (symbolsOf ts) us.length where
  lt_length := by
    simp only [symbolsOf, hts, List.length_append, List.length_map, List.length_singleton]
    omega
  viable j hj := by
    have hviable := (spells_of_taken hts hproper hrun).viable
    rw [← symbolsOf_take hts] at hviable
    exact hviable.of_prefix (List.take_prefix_take_left hj)
  not_viable := h

/-- What a refusal blames is what the first impossible symbol asks for. -/
theorem place_of_refused (hsymbol : s.Closable → (symbolsOf ts)[us.length]? ≠ some (some .closing))
    (place : Nat) :
    (LacksClosing ts us.length →
        some (s.blamed place) = (unclosed (ts.take us.length)).head?) ∧
      (¬LacksClosing ts us.length → s.blamed place = place) := by
  have hclosable := viable_closing_iff hts hproper hrun
  constructor
  · intro hlacks
    exact (blamed_of_closable hts hproper hrun (hclosable.1 hlacks.viable) place).symm
  · intro hnot
    refine blamed_of_not_closable hts hproper hrun (fun hs => hnot ⟨hclosable.2 hs, ?_, hsymbol hs⟩) place
    intro hnil
    have hhead := blamed_of_closable hts hproper hrun hs place
    rw [hnil] at hhead
    cases hhead

/-- A complaint about an impossible symbol points where it should. -/
theorem exists_of_refused {stop place : Nat} (hplace : (placesOf ts stop)[us.length]? = some place)
    (hstarts : ∀ t ∈ ts, t.start ≤ stop) (hle : place ≤ stop)
    (hsymbol : s.Closable → (symbolsOf ts)[us.length]? ≠ some (some .closing))
    (hnot : ¬Viable ((symbolsOf ts).take (us.length + 1))) :
    ∃ k, IsFirstImpossible (symbolsOf ts) k ∧
      (LacksClosing ts k → some (s.blamed place) = (unclosed (ts.take k)).head?) ∧
      (¬LacksClosing ts k → some (s.blamed place) = (placesOf ts stop)[k]?) ∧
      s.blamed place ≤ stop := by
  obtain ⟨hlacks, hpresent⟩ := place_of_refused hts hproper hrun hsymbol place
  refine ⟨us.length, isFirstImpossible_of_taken hts hproper hrun hnot, hlacks, ?_,
    blamed_le hts hproper hrun hle hstarts⟩
  intro h
  rw [hpresent h, hplace]

end

/-- A token that is refused is impossible, and the complaint about it points where it should. -/
theorem exists_of_run_refused {ts : List Token} {stop : Nat} {refusal : Refusal}
    (hproper : ∀ t ∈ ts, t.lexeme.Proper) (hstarts : ∀ t ∈ ts, t.start ≤ stop)
    (h : State.initial.run ts = .error refusal) :
    ∃ k, IsFirstImpossible (symbolsOf ts) k ∧
      (LacksClosing ts k → some refusal.2 = (unclosed (ts.take k)).head?) ∧
      (¬LacksClosing ts k → some refusal.2 = (placesOf ts stop)[k]?) ∧ refusal.2 ≤ stop := by
  obtain ⟨us, t, vs, s, hts, hrun, hstep⟩ := exists_of_run_error h
  have hplace : (placesOf ts stop)[us.length]? = some t.start := by simp [placesOf, hts]
  have hnext : (symbolsOf ts)[us.length]? = some (some t.lexeme) := by simp [symbolsOf, hts]
  have hmem : t ∈ ts := hts ▸ List.mem_append_right us List.mem_cons_self
  have hsymbol : s.Closable → (symbolsOf ts)[us.length]? ≠ some (some .closing) := by
    intro hs hclosing
    rw [hnext] at hclosing
    obtain ⟨s', htaken⟩ :=
      (exists_step_closing_iff (Option.some.inj (Option.some.inj hclosing))).2 hs
    rw [hstep] at htaken
    cases htaken
  have hnot : ¬Viable ((symbolsOf ts).take (us.length + 1)) := by
    intro hviable
    have hts' : ts = (us ++ [t]) ++ vs := by rw [hts, List.append_assoc, List.singleton_append]
    rw [← List.length_singleton (a := t), ← List.length_append, symbolsOf_take hts'] at hviable
    obtain ⟨s', hrun'⟩ := exists_run_of_viable hviable
    rw [run_append_ok hrun, run_singleton, hstep] at hrun'
    cases hrun'
  rw [place_of_step hstep]
  exact exists_of_refused hts hproper hrun hplace hstarts (hstarts t hmem) hsymbol hnot

/-- Tokens that are all taken and make no condition are refused because of the end of the text. -/
theorem exists_of_finish_refused {ts : List Token} {stop : Nat} {s : State} {refusal : Refusal}
    (hproper : ∀ t ∈ ts, t.lexeme.Proper) (hstarts : ∀ t ∈ ts, t.start ≤ stop)
    (hrun : State.initial.run ts = .ok s) (h : s.finish stop = .error refusal)
    (hwhole : ¬Viable (symbolsOf ts)) :
    ∃ k, IsFirstImpossible (symbolsOf ts) k ∧
      (LacksClosing ts k → some refusal.2 = (unclosed (ts.take k)).head?) ∧
      (¬LacksClosing ts k → some refusal.2 = (placesOf ts stop)[k]?) ∧ refusal.2 ≤ stop := by
  have hplace : (placesOf ts stop)[ts.length]? = some stop := by simp [placesOf]
  have hsymbol : s.Closable → (symbolsOf ts)[ts.length]? ≠ some (some .closing) := by
    simp [symbolsOf]
  have hnot : ¬Viable ((symbolsOf ts).take (ts.length + 1)) := by
    rwa [List.take_of_length_le (by simp [symbolsOf])]
  rw [place_of_finish h]
  exact exists_of_refused (List.append_nil ts).symm hproper hrun hplace hstarts (Nat.le_refl stop)
    hsymbol hnot

/-- Tokens that are no condition are refused because of their first impossible symbol. -/
theorem exists_of_parse_error {ts : List Token} {stop : Nat} {refusal : Complaint × Option Nat}
    (hne : ts ≠ []) (hproper : ∀ t ∈ ts, t.lexeme.Proper) (hstarts : ∀ t ∈ ts, t.start ≤ stop)
    (h : parse ts stop = .error refusal) :
    ∃ k place, refusal.2 = some place ∧ IsFirstImpossible (symbolsOf ts) k ∧
      (LacksClosing ts k → some place = (unclosed (ts.take k)).head?) ∧
      (¬LacksClosing ts k → some place = (placesOf ts stop)[k]?) ∧ place ≤ stop := by
  have hwhole : ¬Viable (symbolsOf ts) := by
    intro hviable
    obtain ⟨d, hd⟩ := exists_of_viable_symbolsOf hviable
    rw [parse_of_derivation d hd stop] at h
    cases h
  unfold parse at h
  rw [if_neg (by simpa using hne)] at h
  split at h
  · rename_i hrun
    obtain ⟨k, hk⟩ := exists_of_run_refused hproper hstarts hrun
    exact ⟨k, _, by rw [← Except.error.inj h], hk⟩
  · rename_i s hrun
    split at h
    · rename_i hfinish
      obtain ⟨k, hk⟩ := exists_of_finish_refused hproper hstarts hrun hfinish hwhole
      exact ⟨k, _, by rw [← Except.error.inj h], hk⟩
    · cases h

/-- **A parse error points at the first impossible token.** It is the first one, the end of the text
counting as one, up to which the tokens begin no condition. Only where a closing parenthesis could stand
instead of it, and one is missing, the error points at the innermost parenthesis that is open. Both are
places in the text. -/
theorem position_of_compile_error {text : String} {ts : List Token} {e : ParseError}
    (hscan : Token.scan text.toList = .ok ts) (hblank : Text.allBlank text.toList = false)
    (h : compile text = .error e) :
    ∃ k, IsFirstImpossible (symbolsOf ts) k ∧
      (LacksClosing ts k → e.position = (unclosed (ts.take k)).head?) ∧
      (¬LacksClosing ts k → e.position = (placesOf ts text.length)[k]?) ∧
      ∃ p ≤ text.length, e.position = some p := by
  have hne : ts ≠ [] := by
    rintro rfl
    have hall := Token.allBlank_of_scanFrom hscan
    rw [List.drop_zero, hblank] at hall
    cases hall
  have hstarts : ∀ t ∈ ts, t.start ≤ text.length := by
    intro t ht
    have hlt := Token.start_lt_of_scanFrom hscan t ht
    rw [Nat.zero_add, String.length_toList] at hlt
    exact Nat.le_of_lt hlt
  simp only [compile, hblank, Bool.false_eq_true, if_false, hscan, String.length_toList] at h
  split at h
  · rename_i hparse
    obtain ⟨k, place, rfl, hk, hlacks, hpresent, hle⟩ :=
      exists_of_parse_error hne (Token.scan_proper hscan) hstarts hparse
    obtain rfl := Except.error.inj h
    exact ⟨k, hk, hlacks, hpresent, place, hle, rfl⟩
  · cases h

/-- A word stands where the inner parentheses should be closed: their opening is blamed. -/
theorem position_of_compile_error_nested :
    let ts : List Token := [⟨.opening, 0, 1⟩, ⟨.word "a", 1, 2⟩, ⟨.or, 3, 5⟩, ⟨.opening, 6, 7⟩,
      ⟨.word "b", 7, 8⟩, ⟨.relation .equal, 9, 11⟩, ⟨.number "1", 12, 13⟩, ⟨.word "c", 14, 15⟩,
      ⟨.closing, 15, 16⟩, ⟨.closing, 16, 17⟩, ⟨.and, 18, 21⟩, ⟨.word "d", 22, 23⟩]
    Token.scan "(a OR (b == 1 c)) AND d".toList = .ok ts ∧
      compile "(a OR (b == 1 c)) AND d"
        = .error ⟨.unclosedOpening, "(a OR (b == 1 c)) AND d", some 6⟩ ∧
      ∃ k, IsFirstImpossible (symbolsOf ts) k ∧
        (LacksClosing ts k → some 6 = (unclosed (ts.take k)).head?) ∧
        (¬LacksClosing ts k → some 6 = (placesOf ts 23)[k]?) := by
  intro ts
  have hscan : Token.scan "(a OR (b == 1 c)) AND d".toList = .ok ts := by rfl
  have hcompile : compile "(a OR (b == 1 c)) AND d"
      = .error ⟨.unclosedOpening, "(a OR (b == 1 c)) AND d", some 6⟩ := by rfl
  obtain ⟨k, hk, hlacks, hpresent, -⟩ := position_of_compile_error hscan (by rfl) hcompile
  exact ⟨hscan, hcompile, k, hk, hlacks, hpresent⟩

end RowAlert.Condition
