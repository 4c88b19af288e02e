import RowAlert.Condition.Parser
/-!
# RowAlert.Proofs.Condition.Descent

**Reading a condition by descent**, one function for each rule of the grammar.

The functions share a place in a list of entries, the tokens and behind them the end, and call each
other. Whatever could go wrong on the way is a failure of its own here: an entry is read that is not
in the list, a numeral does not read, calls go too deep or loops on for too long. Every call is
noted with the places where it starts and stops.

No list of tokens leads the functions out of it, and calls and loops end (`reads_read`): whatever is
read takes at least one entry and leaves the end where it is, so four levels of calls for each entry
are enough. A call that starts at a place of the list stops at one, with a tree further on.
-/

namespace RowAlert.Condition.Descent

/-! ### Readers -/

/-- The functions that call each other. -/
inductive Phrase
  | orExpr
  | andExpr
  | notExpr
  | primary
  deriving DecidableEq

/-- A call: of a phrase, or of the function for a single operand. -/
inductive Callee
  | phrase (which : Phrase)
  | operand
  deriving DecidableEq

/-- A call that is over, with the places where it started and stopped. -/
structure Visit where
  callee : Callee
  start : Nat
  stop : Nat
  /-- Whether it returned something. -/
  found : Bool
  deriving DecidableEq

/-- Why nothing is returned. -/
inductive Failure
  /-- There is nothing but the end. -/
  | empty
  | refused (refusal : Refusal)
  /-- A numeral does not read as a number. -/
  | unreadable (written : String)
  /-- An entry was asked for that the list does not have. -/
  | outside
  /-- Calls or loops went on for longer than was allowed. -/
  | unfinished
  deriving DecidableEq

/-- The place that has been reached, and the calls that are over. -/
structure Progress where
  place : Nat
  visits : List Visit

/-- The next place. -/
def Progress.next (p : Progress) : Progress := { p with place := p.place + 1 }

/-- What may read entries or fail. -/
abbrev Reading (α : Type) := EStateM Failure Progress α

variable (ts : List Token) (stop : Nat)

/-- The entries: the tokens and, behind them, the end. -/
def entries : List (Option Token) := ts.map some ++ [none]

/-- Where an entry stands in a text of `stop` characters. -/
def placeOf (stop : Nat) (entry : Option Token) : Nat := (entry.map Token.start).getD stop

/-- The entry at the place. -/
def current : Reading (Option Token) := fun p =>
  match (entries ts)[p.place]? with
  | some entry => .ok entry p
  | none => .error .outside p

/-- Moves to the next place. -/
def move : Reading Unit := fun p => .ok () p.next

/-- Takes the entry at the place. -/
def advance : Reading (Option Token) := do
  let entry ← current ts
  move
  return entry

/-- Takes a connective if it is there. -/
def accept (connective : Lexeme) : Reading Bool := do
  let entry ← current ts
  if entry.map Token.lexeme = some connective then
    move
    return true
  else return false

/-- Notes a call. -/
def visit (callee : Callee) (m : Reading α) : Reading α := fun p =>
  match m p with
  | .ok a p' => .ok a { p' with visits := p'.visits ++ [⟨callee, p.place, p'.place, true⟩] }
  | .error e p' => .error e { p' with visits := p'.visits ++ [⟨callee, p.place, p'.place, false⟩] }

/-! ### Phrases -/

/-- What is wrong with an entry that is no operand. -/
def notOperandAt : Option Token → Refusal
  | none => (.unexpectedEnd, stop)
  | some t =>
    match t.lexeme with
    | .closing => (.strayClosing, t.start)
    | .relation r =>
      (if r ∈ Relation.all then .missingOperand r else .unexpectedToken r.symbol, t.start)
    | l => (.unexpectedToken l.label, t.start)

/-- The value of a numeral. -/
def numberOf (written : String) : Reading Operand :=
  match Number.ofText? written with
  | some x => return .literal (.number x)
  | none => throw (.unreadable written)

/-- An operand. -/
def operand : Reading Operand := visit .operand do
  let entry ← current ts
  match entry.map Token.lexeme with
  | some (.number written) =>
    let _ ← advance ts
    numberOf written
  | some (.text content) =>
    let _ ← advance ts
    return .literal (.text content)
  | some (.word name) =>
    let _ ← advance ts
    return operandOfWord name
  | _ => throw (.refused (notOperandAt stop entry))

/-- The relation that an entry asks for; only the six comparisons count. -/
def relationAt? : Option Token → Option Relation
  | some ⟨.relation r, _, _⟩ => if r ∈ Relation.all then some r else none
  | _ => none

/-- An operand, alone or with a relation and another one. -/
def comparison : Reading Condition := do
  let left ← operand ts stop
  let entry ← current ts
  match relationAt? entry with
  | some r =>
    let _ ← advance ts
    let right ← operand ts stop
    return .compare r left right
  | none => return .operand left

/-- What stands in parentheses; the place is at the opening one. -/
def group (inner : Reading Condition) : Reading Condition := do
  let opening ← advance ts
  let entry ← current ts
  if entry.map Token.lexeme = some .closing then
    throw (.refused (.emptyParentheses, placeOf stop entry))
  else
    let c ← inner
    let entry ← current ts
    if entry.map Token.lexeme = some .closing then
      let _ ← advance ts
      return c
    else throw (.refused (.unclosedOpening, placeOf stop opening))

/-- A negation, or something else. -/
def negation (inner other : Reading Condition) : Reading Condition := do
  if ← accept ts .not then
    let c ← inner
    return .not c
  else other

/-- Goes on with a chain of sides as long as there is a connective. -/
def chainFrom (connective : Lexeme) (join : Condition → Condition → Condition)
    (side : Reading Condition) : Nat → Condition → Reading Condition
  | 0, _ => throw .unfinished
  | rounds + 1, left => do
    if ← accept ts connective then
      let right ← side
      chainFrom connective join side rounds (join left right)
    else return left

/-- A chain of sides, joined from the left. -/
def chain (connective : Lexeme) (join : Condition → Condition → Condition)
    (side : Reading Condition) : Reading Condition := do
  let left ← side
  chainFrom ts connective join side (ts.length + 1) left

/-- What a phrase is, given its parts. -/
def body (part : Phrase → Reading Condition) : Phrase → Reading Condition
  | .orExpr => chain ts .or .or (part .andExpr)
  | .andExpr => chain ts .and .and (part .notExpr)
  | .notExpr => negation ts (part .notExpr) (part .primary)
  | .primary => do
    let entry ← current ts
    if entry.map Token.lexeme = some .opening then group ts stop (part .orExpr)
    else comparison ts stop

/-- Reads a phrase, calls being allowed to go `depth` deep. -/
def read : Nat → Phrase → Reading Condition
  | 0, _ => throw .unfinished
  | depth + 1, phrase => visit (.phrase phrase) (body ts stop (read depth) phrase)

/-- Reads a whole condition. -/
def whole (depth : Nat) : Reading Condition := do
  let first ← current ts
  if first = none then throw .empty
  else
    let c ← read ts stop depth .orExpr
    let last ← current ts
    match last with
    | none => return c
    | some t =>
      throw (.refused
        (if t.lexeme.label = ")" then .strayClosing else .unexpectedToken t.lexeme.label, t.start))

/-- Reads a condition from its tokens, beginning with the first one. -/
def descend (depth : Nat) : EStateM.Result Failure Progress Condition := whole ts stop depth ⟨0, []⟩

/-- How deep calls go at most. -/
def enough : Nat := 4 * ts.length + 4

/-- Reads a condition from its text. A condition or a parse error is the answer; everything else that
can go wrong on the way, and nothing but the end behind a text that is not blank, is a failure. -/
def readText (text : String) : Except Failure (Except ParseError Condition) :=
  let cs := text.toList
  if Text.allBlank cs then .ok (.error ⟨.empty, text, none⟩)
  else
    match Token.scan cs with
    | .error (complaint, pos) => .ok (.error ⟨complaint, text, some pos⟩)
    | .ok ts =>
      match descend ts cs.length (enough ts) with
      | .ok c _ => .ok (.ok c)
      | .error (.refused (complaint, pos)) _ => .ok (.error ⟨complaint, text, some pos⟩)
      | .error failure _ => .error failure

/-! ### Rules -/

section

variable {α β : Type} {m : Reading α} {f : α → Reading β} {p p' : Progress} {a : α}

/-- What holds after a reading: `returned` of what it returns and `failed` of its failure, each with
the progress that was made. -/
def Meets (r : EStateM.Result Failure Progress α) (returned : α → Progress → Prop)
    (failed : Failure → Progress → Prop) : Prop :=
  match r with
  | .ok a p => returned a p
  | .error e p => failed e p

theorem meets_bind {returned : β → Progress → Prop} {failed : Failure → Progress → Prop} :
    Meets ((m >>= f) p) returned failed
      ↔ Meets (m p) (fun a p' => Meets (f a p') returned failed) failed := by
  show Meets (EStateM.bind m f p) returned failed ↔ _
  unfold EStateM.bind
  cases m p <;> rfl

theorem Meets.mono {r : EStateM.Result Failure Progress α} {returned returned' : α → Progress → Prop}
    {failed failed' : Failure → Progress → Prop} (h : Meets r returned failed)
    (hreturned : ∀ a p, returned a p → returned' a p) (hfailed : ∀ e p, failed e p → failed' e p) :
    Meets r returned' failed' := by
  cases r with
  | ok a p => exact hreturned a p h
  | error e p => exact hfailed e p h

theorem bind_ok (h : m p = .ok a p') : (m >>= f) p = f a p' := by
  show EStateM.bind m f p = _
  simp only [EStateM.bind, h]

end

section

variable {ts} {p : Progress}

theorem entries_getElem? {i : Nat} (h : i ≤ ts.length) : (entries ts)[i]? = some ts[i]? := by
  rcases Nat.lt_or_eq_of_le h with hlt | rfl
  · rw [entries, List.getElem?_append_left (by simpa using hlt), List.getElem?_map,
      List.getElem?_eq_getElem hlt, Option.map_some]
  · simp [entries]

theorem current_eq (h : p.place ≤ ts.length) : current ts p = .ok ts[p.place]? p := by
  simp only [current, entries_getElem? h]

theorem current_outside (h : ts.length < p.place) : current ts p = .error .outside p := by
  have hnone : (entries ts)[p.place]? = none := by
    rw [List.getElem?_eq_none_iff, entries]
    simpa [Nat.succ_le_iff] using h
  simp only [current, hnone]

theorem advance_eq (h : p.place ≤ ts.length) : advance ts p = .ok ts[p.place]? p.next := by
  rw [advance, bind_ok (current_eq h)]
  rfl

/-- A connective is taken or it is not there. -/
theorem accept_cases (connective : Lexeme) (h : p.place ≤ ts.length) :
    (∃ t, ts[p.place]? = some t ∧ t.lexeme = connective ∧ accept ts connective p = .ok true p.next) ∨
      ((∀ t, ts[p.place]? = some t → t.lexeme ≠ connective) ∧
        accept ts connective p = .ok false p) := by
  have hcurrent := current_eq h
  rw [accept, bind_ok hcurrent]
  cases hentry : ts[p.place]? with
  | none => exact .inr ⟨fun _ ht => (nomatch ht), rfl⟩
  | some t =>
    by_cases ht : t.lexeme = connective
    · refine .inl ⟨t, rfl, ht, ?_⟩
      rw [if_pos (by rw [Option.map_some, ht])]
      rfl
    · refine .inr ⟨?_, ?_⟩
      · intro t' ht'
        obtain rfl := Option.some.inj ht'
        exact ht
      · rw [if_neg (by simpa using ht)]
        rfl

end

/-! ### Places and endings -/

/-- A call that starts and stops at one of the places up to `n`, further on if it returned something. -/
structure Visit.Inside (n : Nat) (v : Visit) : Prop where
  le : v.start ≤ v.stop
  stop_le : v.stop ≤ n
  found : v.found = true → v.start < v.stop

/-- Progress as far as the place `n`. -/
structure Within (n : Nat) (p p' : Progress) : Prop where
  le : p.place ≤ p'.place
  le_stop : p'.place ≤ n
  visits : ∀ v ∈ p'.visits, v ∈ p.visits ∨ v.Inside n

theorem Within.refl {n : Nat} {p : Progress} (h : p.place ≤ n) : Within n p p :=
  ⟨Nat.le_refl _, h, fun _ hv => .inl hv⟩

theorem Within.next {n : Nat} {p : Progress} (h : p.place < n) : Within n p p.next :=
  ⟨Nat.le_succ _, h, fun _ hv => .inl hv⟩

theorem Within.trans {n : Nat} {p p' p'' : Progress} (h : Within n p p') (h' : Within n p' p'') :
    Within n p p'' where
  le := Nat.le_trans h.le h'.le
  le_stop := h'.le_stop
  visits := by
    intro v hv
    rcases h'.visits v hv with hv | hv
    · exact h.visits v hv
    · exact .inr hv

theorem Within.note {n : Nat} {p p' : Progress} {v : Visit} (h : Within n p p') (hv : v.Inside n) :
    Within n p { p' with visits := p'.visits ++ [v] } where
  le := h.le
  le_stop := h.le_stop
  visits := by
    intro w hw
    rcases List.mem_append.1 hw with hw | hw
    · exact h.visits w hw
    · rw [List.mem_singleton.1 hw]
      exact .inr hv

/-- The failures that tokens can cause: complaints, and numerals among them that do not read. -/
inductive Failure.Due (ts : List Token) : Failure → Prop
  | refused (refusal : Refusal) : Due ts (.refused refusal)
  | unreadable {t : Token} {written : String} (mem : t ∈ ts) (lexeme : t.lexeme = .number written)
      (reads : Number.ofText? written = none) : Due ts (.unreadable written)

/-- A reading from some progress: it stays among the places, its failure is due to the tokens, and
whatever is returned has taken at least so many entries. -/
def Reads (ts : List Token) (least : Nat) (p : Progress)
    (r : EStateM.Result Failure Progress α) : Prop :=
  Meets r (fun _ p' => p.place + least ≤ p'.place ∧ Within ts.length p p')
    (fun e p' => e.Due ts ∧ Within ts.length p p')

section

variable {ts stop} {α β : Type} {m : Reading α} {f : α → Reading β} {p p' : Progress}
  {k least : Nat}

theorem Reads.weaken {r : EStateM.Result Failure Progress α} (h : Reads ts least p r)
    (hk : k ≤ least) : Reads ts k p r :=
  h.mono (fun _ _ h => ⟨Nat.le_trans (Nat.add_le_add_left hk _) h.1, h.2⟩) fun _ _ h => h

/-- A reading goes on from where another one got. -/
theorem Reads.from {r : EStateM.Result Failure Progress α} (h : Within ts.length p p')
    (hk : p.place + k ≤ p'.place + least) (hr : Reads ts least p' r) : Reads ts k p r := by
  refine hr.mono ?_ ?_
  · intro _ q hq
    exact ⟨Nat.le_trans hk hq.1, h.trans hq.2⟩
  · intro _ q hq
    exact ⟨hq.1, h.trans hq.2⟩

theorem Reads.return (a : α) (h : p.place ≤ ts.length) :
    Reads ts 0 p ((pure a : Reading α) p) :=
  ⟨Nat.le_refl _, .refl h⟩

theorem Reads.refuse (refusal : Refusal) (h : p.place ≤ ts.length) :
    Reads ts k p ((throw (.refused refusal) : Reading α) p) :=
  ⟨.refused refusal, .refl h⟩

/-- What comes first may take all the entries that are to be taken. -/
theorem Reads.bind (hm : Reads ts least p (m p))
    (hf : ∀ a p', p.place + least ≤ p'.place → p'.place ≤ ts.length → Reads ts 0 p' (f a p')) :
    Reads ts least p ((m >>= f) p) := by
  refine meets_bind.2 (Meets.mono hm ?_ fun _ _ h => h)
  intro a p' h
  exact Reads.from h.2 h.1 (hf a p' h.1 h.2.le_stop)

/-- A call that reads something is noted as one. -/
theorem Reads.visit {callee : Callee} (h : Reads ts 1 p (m p)) :
    Reads ts 1 p (visit callee m p) := by
  unfold Descent.visit
  cases hr : m p with
  | ok a p' =>
    rw [hr] at h
    exact ⟨h.1, h.2.note ⟨h.2.le, h.2.le_stop, fun _ => h.1⟩⟩
  | error e p' =>
    rw [hr] at h
    exact ⟨h.1, h.2.note ⟨h.2.le, h.2.le_stop, fun hfound => nomatch hfound⟩⟩

/-- An entry that is a token is taken. -/
theorem Reads.advance {g : Option Token → Reading β} (h : p.place < ts.length)
    (hg : Reads ts 0 p.next (g ts[p.place]? p.next)) : Reads ts 1 p ((advance ts >>= g) p) := by
  rw [bind_ok (advance_eq (Nat.le_of_lt h))]
  exact Reads.from (.next h) (Nat.le_refl _) hg

/-! ### Phrases stay among the places -/

theorem lt_length_of_getElem? {i : Nat} {t : Token} (h : ts[i]? = some t) : i < ts.length :=
  (List.getElem?_eq_some_iff.1 h).1

theorem reads_numberOf {t : Token} {written : String} (ht : t ∈ ts)
    (hlexeme : t.lexeme = .number written) (h : p.place ≤ ts.length) :
    Reads ts 0 p (numberOf written p) := by
  unfold numberOf
  cases hx : Number.ofText? written with
  | some x => exact Reads.return _ h
  | none => exact ⟨.unreadable ht hlexeme hx, .refl h⟩

theorem reads_operand (h : p.place ≤ ts.length) : Reads ts 1 p (operand ts stop p) := by
  refine Reads.visit ?_
  rw [bind_ok (current_eq h)]
  cases hentry : ts[p.place]? with
  | none => exact Reads.refuse _ h
  | some t =>
    have hlt := lt_length_of_getElem? hentry
    rw [Option.map_some]
    cases hlexeme : t.lexeme with
    | number written =>
      exact Reads.advance hlt (reads_numberOf (List.mem_of_getElem? hentry) hlexeme hlt)
    | text content => exact Reads.advance hlt (Reads.return _ hlt)
    | word name => exact Reads.advance hlt (Reads.return _ hlt)
    | _ => exact Reads.refuse _ h

theorem reads_comparison (h : p.place ≤ ts.length) : Reads ts 1 p (comparison ts stop p) := by
  refine (reads_operand h).bind ?_
  intro left p' _ h'
  rw [bind_ok (current_eq h')]
  cases hentry : ts[p'.place]? with
  | none => exact Reads.return _ h'
  | some t =>
    have hlt := lt_length_of_getElem? hentry
    cases relationAt? (some t) with
    | none => exact Reads.return _ h'
    | some r =>
      refine (Reads.advance hlt ?_).weaken (Nat.zero_le 1)
      refine ((reads_operand (p := p'.next) hlt).bind ?_).weaken (Nat.zero_le 1)
      intro right p'' _ h''
      exact Reads.return _ h''

/-- The place is at a token, the opening parenthesis. -/
theorem reads_group {inner : Reading Condition} (h : p.place < ts.length)
    (hinner : ∀ p', p.place < p'.place → p'.place ≤ ts.length → Reads ts 1 p' (inner p')) :
    Reads ts 1 p (group ts stop inner p) := by
  refine Reads.advance h ?_
  rw [bind_ok (current_eq (p := p.next) h)]
  split
  · exact Reads.refuse _ h
  · refine ((hinner p.next (Nat.lt_succ_self _) h).bind ?_).weaken (Nat.zero_le 1)
    intro c p' _ h'
    rw [bind_ok (current_eq h')]
    split
    · rename_i hclosing
      obtain ⟨t, ht, -⟩ := Option.map_eq_some_iff.1 hclosing
      have hlt := lt_length_of_getElem? ht
      refine (Reads.advance hlt ?_).weaken (Nat.zero_le 1)
      exact Reads.return c hlt
    · exact Reads.refuse _ h'

theorem reads_negation {inner other : Reading Condition} (h : p.place ≤ ts.length)
    (hinner : ∀ p', p.place < p'.place → p'.place ≤ ts.length → Reads ts 1 p' (inner p'))
    (hother : Reads ts 1 p (other p)) : Reads ts 1 p (negation ts inner other p) := by
  rw [negation]
  rcases accept_cases .not h with ⟨t, ht, -, haccept⟩ | ⟨-, haccept⟩
  · rw [bind_ok haccept]
    have hlt := lt_length_of_getElem? ht
    refine Reads.from (.next hlt) (Nat.le_succ _)
      ((hinner p.next (Nat.lt_succ_self _) hlt).bind ?_)
    intro c p' _ h'
    exact Reads.return _ h'
  · rw [bind_ok haccept]
    exact hother

/-- Every round takes an entry, so there are at most as many rounds as entries. -/
theorem reads_chainFrom {connective : Lexeme} {join : Condition → Condition → Condition}
    {side : Reading Condition} {rounds : Nat} (left : Condition) (h : p.place ≤ ts.length)
    (hrounds : ts.length < p.place + rounds)
    (hside : ∀ p', p.place < p'.place → p'.place ≤ ts.length → Reads ts 1 p' (side p')) :
    Reads ts 0 p (chainFrom ts connective join side rounds left p) := by
  induction rounds generalizing left p with
  | zero => omega
  | succ rounds ih =>
    rw [chainFrom]
    rcases accept_cases connective h with ⟨t, ht, -, haccept⟩ | ⟨-, haccept⟩
    · rw [bind_ok haccept]
      have hlt := lt_length_of_getElem? ht
      refine Reads.from (.next hlt) (Nat.le_add_right _ 2)
        ((hside p.next (Nat.lt_succ_self _) hlt).bind ?_)
      intro right p' hle h'
      have hfurther : p.place + 2 ≤ p'.place := hle
      refine ih _ h' (by omega) ?_
      intro q hq
      exact hside q (by omega)
    · rw [bind_ok haccept]
      exact Reads.return _ h

theorem reads_chain {connective : Lexeme} {join : Condition → Condition → Condition}
    {side : Reading Condition}
    (hside : ∀ p', p.place ≤ p'.place → p'.place ≤ ts.length → Reads ts 1 p' (side p'))
    (h : p.place ≤ ts.length) : Reads ts 1 p (chain ts connective join side p) := by
  refine (hside p (Nat.le_refl _) h).bind ?_
  intro left p' hle h'
  refine reads_chainFrom left h' (by omega) ?_
  intro q hq
  exact hside q (by omega)

end

/-! ### Calls end -/

/-- How many levels of calls there are below a phrase before it takes an entry. -/
def Phrase.rank : Phrase → Nat
  | .orExpr => 4
  | .andExpr => 3
  | .notExpr => 2
  | .primary => 1

/-- How deep the calls of a phrase go at a place: four levels for each entry that is left. -/
def need (place : Nat) (phrase : Phrase) : Nat := 4 * (ts.length - place) + phrase.rank

section

variable {ts stop} {p : Progress} {phrase phrase' : Phrase} {i j : Nat}

theorem need_lt_of_rank_lt (hrank : phrase'.rank < phrase.rank) (h : i ≤ j) :
    need ts j phrase' < need ts i phrase := by
  unfold need
  omega

/-- Further on any phrase needs less. -/
theorem need_lt_of_lt (h : i < j) (hj : j ≤ ts.length) : need ts j phrase' < need ts i phrase := by
  have hle : phrase'.rank ≤ 4 := by cases phrase' <;> decide
  have hpos : 0 < phrase.rank := by cases phrase <;> decide
  unfold need
  omega

theorem reads_read {depth : Nat} (phrase : Phrase) (h : p.place ≤ ts.length)
    (hdepth : need ts p.place phrase ≤ depth) : Reads ts 1 p (read ts stop depth phrase p) := by
  induction depth generalizing phrase p with
  | zero => cases phrase <;> simp [need, Phrase.rank] at hdepth
  | succ depth ih =>
    have hpart : ∀ part (q : Progress), q.place ≤ ts.length →
        need ts q.place part < need ts p.place phrase → Reads ts 1 q (read ts stop depth part q) :=
      fun part q hq hlt => ih part hq (Nat.le_of_lt_succ (Nat.lt_of_lt_of_le hlt hdepth))
    refine Reads.visit ?_
    cases phrase with
    | orExpr =>
      refine reads_chain ?_ h
      intro q hle hq
      exact hpart .andExpr q hq (need_lt_of_rank_lt (by decide) hle)
    | andExpr =>
      refine reads_chain ?_ h
      intro q hle hq
      exact hpart .notExpr q hq (need_lt_of_rank_lt (by decide) hle)
    | notExpr =>
      refine reads_negation h ?_ (hpart .primary p h (need_lt_of_rank_lt (by decide) (Nat.le_refl _)))
      intro q hlt hq
      exact hpart .notExpr q hq (need_lt_of_lt hlt hq)
    | primary =>
      show Reads ts 1 p ((current ts >>= _) p)
      rw [bind_ok (current_eq h)]
      split
      · rename_i hopening
        obtain ⟨t, ht, -⟩ := Option.map_eq_some_iff.1 hopening
        refine reads_group (lt_length_of_getElem? ht) ?_
        intro q hlt hq
        exact hpart .orExpr q hq (need_lt_of_lt hlt hq)
      · exact reads_comparison h

/-- Progress from the beginning: all calls were at places of the list, and so is the place. -/
structure Contained (ts : List Token) (p : Progress) : Prop where
  place_le : p.place ≤ ts.length
  inside : ∀ v ∈ p.visits, v.Inside ts.length

theorem Within.contained (h : Within ts.length ⟨0, []⟩ p) : Contained ts p where
  place_le := h.le_stop
  inside := fun v hv => (h.visits v hv).resolve_left List.not_mem_nil

/-- Tokens are read whole, unless there are none. -/
theorem reads_descend (stop : Nat) {depth : Nat} (hne : ts ≠ []) (hdepth : enough ts ≤ depth) :
    Reads ts 1 ⟨0, []⟩ (descend ts stop depth) := by
  rw [descend, whole, bind_ok (current_eq (Nat.zero_le _))]
  obtain ⟨t, ts', rfl⟩ := List.exists_cons_of_ne_nil hne
  rw [if_neg (by simp)]
  refine (reads_read .orExpr (Nat.zero_le _) hdepth).bind ?_
  intro c p' _ h'
  rw [bind_ok (current_eq h')]
  cases (t :: ts')[p'.place]? with
  | none => exact Reads.return c h'
  | some last => exact Reads.refuse _ h'

end

end RowAlert.Condition.Descent
