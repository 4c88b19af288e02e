import RowAlert.Proofs.Condition.Partition
/-!
# RowAlert.Proofs.Condition.Layout

**The layout of a condition does not matter**, nor does the spelling of its connectives.

A text may be laid out anew (`Relaid`): blanks are inserted at the boundaries of its tokens, and
connectives are written in another of their spellings. It is cut into the same lexemes then
(`lexemesFrom?_relaid`) and has the same tree.

A token sees some of what follows it: `1` followed by `e5` is one numeral, but `1` followed by `e` and a
quote is not. So the induction over the tokens has to say how much the rest of a text has changed. It is
as it was up to the first blank that was inserted or the first connective that was spelled anew
(`Relaid.exists_boundary`), and neither of them goes on with a lexeme that ended there before
(`Longest.across`).
-/

namespace RowAlert

/-- Nothing follows, or a blank does. -/
def SetOff (rest : List Char) : Prop := ∀ c, rest.head? = some c → Text.isBlank c = true

namespace Lexeme

/-- A spelling of a connective: its word, in any letter case, or its symbol. -/
def Spelling (l : Lexeme) (cs : List Char) : Prop := SpelledOut l cs ∨ Symbolic l cs

theorem Spelling.written {l : Lexeme} {cs : List Char} (h : Spelling l cs) : Written cs l := by
  rcases h with h | h
  · exact .connective h
  · exact .symbol h

end Lexeme

namespace Token

open Lexeme

/-- From a place on, the second text is the first one with its tokens laid out anew. -/
inductive Relaid : Nat → List Char → List Token → List Char → Prop
  /-- Blanks may be inserted behind the last token. -/
  | behind {pos : Nat} {gap gap' : List Char} (hgap : gap.Sublist gap')
      (hblank : Text.allBlank gap' = true) : Relaid pos gap [] gap'
  /-- Blanks may be inserted in front of a token that stays as it is. -/
  | kept {pos : Nat} {gap gap' p rest rest' : List Char} {t : Token} {ts : List Token}
      (hgap : gap.Sublist gap') (hblank : Text.allBlank gap' = true)
      (hstart : t.start = pos + gap.length) (hstop : t.stop = t.start + p.length)
      (h : Relaid t.stop rest ts rest') :
      Relaid pos (gap ++ (p ++ rest)) (t :: ts) (gap' ++ (p ++ rest'))
  /-- The word of a connective may be written in another letter case. -/
  | recased {pos : Nat} {gap gap' p p' rest rest' : List Char} {t : Token} {ts : List Token}
      (hgap : gap.Sublist gap') (hblank : Text.allBlank gap' = true)
      (hstart : t.start = pos + gap.length) (hstop : t.stop = t.start + p.length)
      (hp : SpelledOut t.lexeme p) (hp' : SpelledOut t.lexeme p')
      (h : Relaid t.stop rest ts rest') :
      Relaid pos (gap ++ (p ++ rest)) (t :: ts) (gap' ++ (p' ++ rest'))
  /-- A connective may be written in any of its spellings between blanks or at the ends of the text. -/
  | respelled {pos : Nat} {gap gap' p p' rest rest' : List Char} {t : Token} {ts : List Token}
      (hgap : gap.Sublist gap') (hblank : Text.allBlank gap' = true)
      (hstart : t.start = pos + gap.length) (hstop : t.stop = t.start + p.length)
      (hp' : Spelling t.lexeme p') (hbefore : gap' = [] → pos = 0) (hbehind : SetOff rest')
      (h : Relaid t.stop rest ts rest') :
      Relaid pos (gap ++ (p ++ rest)) (t :: ts) (gap' ++ (p' ++ rest'))

end Token

/-! ### What goes on with a lexeme -/

theorem setOff_of_allBlank {gap : List Char} (h : Text.allBlank gap = true) : SetOff gap := by
  intro c hc
  exact List.all_eq_true.1 h c (List.mem_of_head? hc)

theorem setOff_gap {gap : List Char} (h : Text.allBlank gap = true) (hne : gap ≠ [])
    (rest : List Char) : SetOff (gap ++ rest) := by
  intro c hc
  rw [List.head?_append_of_ne_nil _ hne] at hc
  exact setOff_of_allBlank h c hc

namespace Lexeme

theorem not_isBlank_of_continuesWord {c : Char} (h : continuesWord c = true) :
    Text.isBlank c = false := by
  simp only [continuesWord, Char.isAlphanum, Bool.or_eq_true, decide_eq_true_eq] at h
  rcases h with ((hletter | hdigit) | rfl) | rfl
  · have hrange := Spells.range_of_startsWord (c := c) (by simp [startsWord, hletter])
    exact Text.not_isBlank_of_range (by omega)
  · have hrange := Text.isDigit_iff_range.1 hdigit
    exact Text.not_isBlank_of_range (by omega)
  · decide
  · decide

theorem not_isBlank_of_continuesLexeme {c : Char} (h : continuesLexeme c = true) :
    Text.isBlank c = false := by
  simp only [continuesLexeme, continuesNumeral, Bool.or_eq_true, decide_eq_true_eq] at h
  rcases h with (((hword | ((hdigit | rfl) | rfl) | rfl) | rfl) | rfl) | rfl
  · exact not_isBlank_of_continuesWord hword
  · exact Text.not_isBlank_of_isDigit hdigit
  all_goals decide

theorem settled_of_setOff {rest : List Char} (h : SetOff rest) : Settled rest := by
  intro c hc
  cases hcontinues : continuesLexeme c with
  | false => rfl
  | true =>
    rw [← not_isBlank_of_continuesLexeme hcontinues]
    exact (h c hc).symm

/-- A text that writes a lexeme is taken in full if it stands alone. -/
theorem Written.front? {p : List Char} {l : Lexeme} (h : Written p l) :
    Lexeme.front? p = some (l, p.length) := by
  obtain ⟨m, width, hfront, hle, hsame⟩ := reaches_of_written h []
  rw [List.append_nil] at hfront
  have hwidth := Nat.le_antisymm (front?_eq_some_iff.1 hfront).le_length hle
  rw [hfront, hsame hwidth, hwidth]

/-- A lexeme that was found is the longest also in front of something settled. -/
theorem Longest.settled {cs rest : List Char} {l : Lexeme} {width : Nat} (h : Longest cs l width)
    (hrest : Settled rest) : Longest (cs ++ rest) l width := by
  obtain ⟨c, ds, rfl⟩ : ∃ c ds, cs = c :: ds := by
    obtain ⟨c, ds, hcs, -⟩ := h.written.exists_cons
    refine List.exists_cons_of_ne_nil ?_
    rintro rfl
    rw [List.take_nil] at hcs
    cases hcs
  exact front?_eq_some_iff.1 (front?_append (front?_eq_some_iff.2 h) hrest).1

theorem Written.longest {p rest : List Char} {l : Lexeme} (h : Written p l) (hrest : SetOff rest) :
    Longest (p ++ rest) l p.length :=
  (front?_eq_some_iff.1 h.front?).settled (settled_of_setOff hrest)

/-! ### Boundaries -/

/-- The text goes on with the word of a connective. -/
def OpensConnective (cs : List Char) : Prop := ∃ l p rest, SpelledOut l p ∧ cs = p ++ rest

/-- No letter of a connective goes on with a numeral. -/
theorem OpensConnective.exists_cons {cs : List Char} (h : OpensConnective cs) :
    ∃ c ds, cs = c :: ds ∧ startsWord c = true ∧ Numeral.plainDigit c = c ∧
      NumeralForm.isPlainChar c = false := by
  obtain ⟨l, p, rest, hp, rfl⟩ := h
  obtain ⟨c, ds, rfl, hc, -⟩ := hp.word
  obtain ⟨w, s, hmem, hw⟩ := hp
  have hletter : c.toLower = 'a' ∨ c.toLower = 'o' ∨ c.toLower = 'n' := by
    simp only [connectives, List.mem_cons, List.not_mem_nil, or_false] at hmem
    rcases hmem with heq | heq | heq <;> cases heq
    · exact .inl (List.cons.inj hw).1
    · exact .inr (.inl (List.cons.inj hw).1)
    · exact .inr (.inr (List.cons.inj hw).1)
  have hrange := Spells.range_of_startsWord hc
  have hnot : c.isDigit = false := by
    rw [Bool.eq_false_iff, ne_eq, Text.isDigit_iff_range]
    omega
  refine ⟨c, ds ++ rest, rfl, hc, ?_, ?_⟩
  · rw [Numeral.plainDigit, Text.digit?_of_ascii (by omega), hnot]
    rfl
  · have hne : ∀ d ∈ ['-', '+', '.', 'e', 'E'], c ≠ d := by
      intro d hd heq
      subst heq
      simp only [List.mem_cons, List.not_mem_nil, or_false] at hd
      rcases hd with rfl | rfl | rfl | rfl | rfl <;> exact absurd hletter (by decide)
    simpa [NumeralForm.isPlainChar, hnot, and_assoc] using hne

/-- A lexeme that holds a letter of a connective is a word, if it is no text in quotes. -/
theorem Written.word_of_mem {p : List Char} {l : Lexeme} (h : Written p l) {c : Char} (hc : c ∈ p)
    (hword : startsWord c = true) (hsame : Numeral.plainDigit c = c)
    (hplain : NumeralForm.isPlainChar c = false) :
    (∃ quote cs, p = quote :: cs ∧ (quote = '"' ∨ quote = '\'')) ∨
      ∃ d ds, p = d :: ds ∧ startsWord d = true ∧ ∀ e ∈ ds, continuesWord e = true := by
  have hoperator : ∀ {cs : List Char}, c ∈ cs → cs.any startsWord ≠ false := by
    intro cs hmem hnone
    exact absurd hword (by simpa using List.any_eq_false.1 hnone c hmem)
  cases h with
  | numeral hf =>
    have hmem := List.mem_map_of_mem (f := Numeral.plainDigit) hc
    rw [← NumeralForm.chars_plain, hsame] at hmem
    have htrue := hf.plain.isPlainChar hmem
    rw [hplain] at htrue
    cases htrue
  | quoted hquote _ => exact .inl ⟨_, _, rfl, hquote⟩
  | relation hr =>
    have hnone : ∀ r ∈ Relation.all, r.symbol.toList.any startsWord = false := by decide
    exact absurd (hnone _ hr) (hoperator hc)
  | opening => exact absurd (by decide) (hoperator hc)
  | closing => exact absurd (by decide) (hoperator hc)
  | symbol hl =>
    obtain ⟨w, s, hmem, rfl⟩ := hl
    have hnone : ∀ x ∈ connectives, x.2.2.toList.any startsWord = false := by decide
    exact absurd (hnone _ hmem) (hoperator hc)
  | connective hl =>
    obtain ⟨d, ds, rfl, hd, hds⟩ := hl.word
    exact .inr ⟨d, ds, rfl, hd, hds⟩
  | name hd hds _ => exact .inr ⟨_, _, rfl, hd, hds⟩

/-- A text in quotes is as long as it is, whatever follows. -/
theorem Written.longest_of_quote {quote : Char} {cs : List Char} {l : Lexeme}
    (h : Written (quote :: cs) l) (hquote : quote = '"' ∨ quote = '\'') (rest : List Char) :
    Longest (quote :: cs ++ rest) l (quote :: cs).length := by
  have hne : quote ≠ '\\' := by rcases hquote with rfl | rfl <;> decide
  have hfront := h.front?
  rw [front?_of_quote hquote] at hfront
  obtain ⟨⟨body, width⟩, hbody, heq⟩ := Option.map_eq_some_iff.1 hfront
  obtain ⟨happend, -⟩ := quotedBody?_append hne hbody rest
  refine front?_eq_some_iff.1 ?_
  rw [List.cons_append, front?_of_quote hquote, happend, Option.map_some, heq]

/-- What a text may have in another way behind a lexeme: a blank comes there, or one connective takes the
place of another. -/
def Boundary (v v' : List Char) : Prop := SetOff v' ∨ OpensConnective v ∧ OpensConnective v'

/-- A lexeme that is the longest stays so if the text changes at a boundary. -/
theorem Longest.across {p u v v' : List Char} {l : Lexeme}
    (h : Longest (p ++ (u ++ v)) l p.length) (hb : Boundary v v') :
    Longest (p ++ (u ++ v')) l p.length := by
  have hfront := front?_eq_some_iff.2 h
  rw [← List.append_assoc] at hfront
  have hshort := front?_eq_some_iff.1 (front?_of_append hfront (by simp))
  rcases hb with hsetOff | ⟨hv, hv'⟩
  · rw [← List.append_assoc]
    exact hshort.settled (settled_of_setOff hsetOff)
  obtain ⟨c, ds, rfl, hc, -⟩ := hv.exists_cons
  obtain ⟨d, es, rfl, hd, hsame, hplain⟩ := hv'.exists_cons
  have hp : Written p l := by simpa using h.written
  obtain ⟨b, bs, rfl, -⟩ := hp.exists_cons
  refine ⟨by simp, by simpa using hp, fun {q m} hq hm => ?_⟩
  have hprefix : b :: bs ++ u <+: b :: bs ++ (u ++ d :: es) := by
    rw [← List.append_assoc]
    exact List.prefix_append _ _
  rcases List.prefix_or_prefix_of_prefix hq hprefix with hbefore | ⟨tail, rfl⟩
  · exact hshort.longest hbefore hm
  -- A longer lexeme reaches beyond the boundary, so it holds the letter there.
  rw [← List.append_assoc, List.prefix_append_right_inj] at hq
  cases tail with
  | nil => exact hshort.longest (by rw [List.append_nil]) hm
  | cons d' tail =>
    obtain rfl : d' = d := (List.cons_prefix_cons.1 hq).1
    rcases hm.word_of_mem (by simp) hd hsame hplain with ⟨quote, cs, heq, hquote⟩ | hword
    · -- A text in quotes does not go on.
      obtain rfl : b = quote := (List.cons.inj heq).1
      refine (hp.longest_of_quote hquote (u ++ d' :: tail)).longest ?_ hm
      rw [← List.append_assoc]
    · -- A word would have gone on before, too.
      obtain ⟨e, fs, heq, he, hfs⟩ := hword
      obtain ⟨rfl, hbehind⟩ := List.cons.inj heq
      have hlonger : Written (b :: (bs ++ u ++ [c])) (ofWord (b :: (bs ++ u ++ [c]))) := by
        refine written_ofWord he fun x hx => ?_
        rcases List.mem_append.1 hx with hx | hx
        · refine hfs x ?_
          rw [← hbehind]
          exact List.mem_append_left _ hx
        · rw [List.mem_singleton.1 hx]
          exact Spells.continuesWord_of_startsWord hc
      have hle := h.longest (p := b :: (bs ++ u ++ [c])) ⟨ds, by simp⟩ hlonger
      simp only [List.length_cons, List.length_append, List.length_nil] at hle
      omega

/-- A word is the longest in all its letter cases or in none. -/
theorem Longest.recased {p p' rest : List Char} {l : Lexeme} (h : Longest (p ++ rest) l p.length)
    (hp : SpelledOut l p) (hp' : SpelledOut l p') : Longest (p' ++ rest) l p'.length := by
  obtain ⟨c, cs, rfl, hc, hcs⟩ := hp.word
  obtain ⟨c', cs', rfl, hc', hcs'⟩ := hp'.word
  have hstops : Text.StopsAt continuesWord rest := by
    intro d hd
    obtain ⟨ds, rfl⟩ := List.head?_eq_some_iff.1 hd
    cases hcontinues : continuesWord d with
    | false => rfl
    | true =>
      have hlonger : Written (c :: (cs ++ [d])) (ofWord (c :: (cs ++ [d]))) := by
        refine written_ofWord hc fun x hx => ?_
        rcases List.mem_append.1 hx with hx | hx
        · exact hcs x hx
        · rw [List.mem_singleton.1 hx, hcontinues]
      have hle := h.longest (p := c :: (cs ++ [d])) ⟨ds, by simp⟩ hlonger
      simp only [List.length_cons, List.length_append, List.length_nil] at hle
      omega
  have hfront := Spells.front?_word hc' hcs' hstops
  rw [ofWord_of_spelledOut hp'] at hfront
  exact front?_eq_some_iff.1 hfront

end Lexeme

namespace Token

open Lexeme

/-! ### Texts that are laid out anew -/

/-- A blank that is inserted is a boundary. -/
theorem exists_boundary_gap {gap : List Char} (hblank : Text.allBlank gap = true) (hne : gap ≠ [])
    (cs rest : List Char) : ∃ u v v', cs = u ++ v ∧ gap ++ rest = u ++ v' ∧ Boundary v v' :=
  ⟨[], cs, gap ++ rest, rfl, rfl, .inl (setOff_gap hblank hne rest)⟩

/-- A text that is laid out anew changes at a boundary first. -/
theorem Relaid.exists_boundary {pos : Nat} {cs ds : List Char} {ts : List Token}
    (h : Relaid pos cs ts ds) (hpos : 0 < pos) :
    ∃ u v v', cs = u ++ v ∧ ds = u ++ v' ∧ Boundary v v' := by
  induction h with
  | @behind pos gap gap' hgap hblank =>
    exact ⟨[], gap, gap', rfl, rfl, .inl (setOff_of_allBlank hblank)⟩
  | @kept pos gap gap' p rest rest' t ts hgap hblank hstart hstop _ ih =>
    by_cases hne : gap' = []
    · subst hne
      obtain rfl := List.sublist_nil.1 hgap
      obtain ⟨u, v, v', rfl, rfl, hboundary⟩ := ih (by omega)
      exact ⟨p ++ u, v, v', by simp, by simp, hboundary⟩
    · exact exists_boundary_gap hblank hne _ _
  | @recased pos gap gap' p p' rest rest' t ts hgap hblank _ _ hp hp' _ _ =>
    by_cases hne : gap' = []
    · subst hne
      obtain rfl := List.sublist_nil.1 hgap
      exact ⟨[], p ++ rest, p' ++ rest', rfl, rfl, .inr ⟨⟨_, p, rest, hp, rfl⟩, ⟨_, p', rest', hp', rfl⟩⟩⟩
    · exact exists_boundary_gap hblank hne _ _
  | respelled _ hblank _ _ _ hbefore _ _ _ =>
    exact exists_boundary_gap hblank (fun hnil => Nat.ne_of_gt hpos (hbefore hnil)) _ _

theorem scanFrom_gap {gap : List Char} (h : Text.allBlank gap = true) (pos : Nat)
    (rest : List Char) : scanFrom 0 pos (gap ++ rest) = scanFrom 0 (pos + gap.length) rest := by
  induction gap generalizing pos with
  | nil => rfl
  | cons c gap ih =>
    rw [Text.allBlank_cons, Bool.and_eq_true] at h
    rw [List.cons_append, scanFrom_blank h.1, ih h.2, List.length_cons, Nat.add_assoc,
      Nat.add_comm 1]

/-- Blanks and a lexeme in front of a text. -/
theorem lexemesFrom?_cons {gap p rest : List Char} {l : Lexeme} {ls : List Lexeme}
    (hblank : Text.allBlank gap = true) (hl : Longest (p ++ rest) l p.length)
    (h : ∀ pos, lexemesFrom? pos rest = some ls) (pos : Nat) :
    lexemesFrom? pos (gap ++ (p ++ rest)) = some (l :: ls) := by
  obtain ⟨ts, rfl, hts⟩ := exists_of_lexemesFrom? (h (pos + gap.length + p.length))
  rw [lexemesFrom?, scanFrom_gap hblank, scanFrom_longest hl, hts]
  rfl

/-- The first token of a partition, behind a gap. -/
theorem Partition.of_append {whole gap p rest : List Char} {pos last : Nat} {t : Token}
    {ts : List Token} (h : Partition whole pos last (t :: ts))
    (hcs : whole.drop pos = gap ++ (p ++ rest)) (hstart : t.start = pos + gap.length)
    (hstop : t.stop = t.start + p.length) :
    Longest (p ++ rest) t.lexeme p.length ∧ whole.drop t.stop = rest ∧ 0 < t.stop := by
  have hlongest := h.longest t List.mem_cons_self
  have hlt := h.start_lt t List.mem_cons_self
  have hdrop := drop_of_append hcs
  rw [hstart, hdrop, ← hstart, hstop, Nat.add_sub_cancel_left] at hlongest
  refine ⟨hlongest, ?_, by omega⟩
  rw [hstop, hstart]
  exact drop_of_append hdrop

/-- A text that is laid out anew is cut into the same lexemes. -/
theorem lexemesFrom?_relaid {whole cs ds : List Char} {pos last : Nat} {ts : List Token}
    (h : Relaid pos cs ts ds) (hcs : whole.drop pos = cs) (hts : Partition whole pos last ts) :
    ∀ moved, lexemesFrom? moved ds = some (ts.map Token.lexeme) := by
  -- By induction on the tokens from the last one back: what follows a token is cut as it was, and it
  -- begins as it did, up to a boundary.
  induction h with
  | @behind pos gap gap' hgap hblank =>
    intro moved
    rw [lexemesFrom?, scanFrom_of_allBlank hblank]
    rfl
  | @kept pos gap gap' p rest rest' t ts _ hblank hstart hstop h ih =>
    obtain ⟨hlongest, hrest, hpos⟩ := hts.of_append hcs hstart hstop
    obtain ⟨u, v, v', rfl, rfl, hboundary⟩ := h.exists_boundary hpos
    exact lexemesFrom?_cons hblank (hlongest.across hboundary) (ih hrest hts.tail)
  | @recased pos gap gap' p p' rest rest' t ts _ hblank hstart hstop hp hp' h ih =>
    obtain ⟨hlongest, hrest, hpos⟩ := hts.of_append hcs hstart hstop
    obtain ⟨u, v, v', rfl, rfl, hboundary⟩ := h.exists_boundary hpos
    exact lexemesFrom?_cons hblank ((hlongest.across hboundary).recased hp hp') (ih hrest hts.tail)
  | @respelled pos gap gap' p p' rest rest' t ts _ hblank hstart hstop hp' _ hbehind h ih =>
    obtain ⟨-, hrest, -⟩ := hts.of_append hcs hstart hstop
    exact lexemesFrom?_cons hblank (hp'.written.longest hbehind) (ih hrest hts.tail)

end Token

namespace Condition

open Token

/-- **Layout and spelling do not matter.** Whatever blanks are inserted at the boundaries of the tokens of
a text that compiles, and however its connectives are spelled, the text has the same tree. -/
theorem compile_relaid {text : String} {c : Condition} (h : compile text = .ok c) :
    ∃ ts, scan text.toList = .ok ts ∧
      ∀ text' : String, Relaid 0 text.toList ts text'.toList → compile text' = .ok c := by
  cases hscan : scan text.toList with
  | error refusal =>
    simp only [compile, hscan] at h
    split at h <;> cases h
  | ok ts =>
    refine ⟨ts, rfl, fun text' hrelaid => ?_⟩
    obtain ⟨d, hd, rfl⟩ := derivation_of_compile hscan h
    have hpartition := partition_of_scanFrom rfl (Nat.zero_le _) hscan
    have hlexemes := lexemesFrom?_relaid hrelaid rfl hpartition 0
    obtain ⟨us, hsame, hus⟩ := exists_of_lexemesFrom? hlexemes
    exact compile_of_derivation hus d (hd.trans hsame.symm)

/-- Blanks around a parenthesis and at the ends, a word in capitals that stands directly behind a
parenthesis, and a word instead of a symbol. -/
theorem compile_relaid_mixed :
    let ts : List Token := [⟨.opening, 0, 1⟩, ⟨.word "a", 1, 2⟩, ⟨.relation .equal, 2, 4⟩,
      ⟨.word "b", 4, 5⟩, ⟨.closing, 5, 6⟩, ⟨.and, 6, 9⟩, ⟨.not, 9, 10⟩, ⟨.word "c", 10, 11⟩]
    let c : Condition := .and (.compare .equal (.field "a") (.field "b"))
      (.not (.operand (.field "c")))
    compile "(a==b)and!c" = .ok c ∧
      Relaid 0 "(a==b)and!c".toList ts "\t( a==b)AND nOt c\n".toList ∧
      compile "\t( a==b)AND nOt c\n" = .ok c := by
  intro ts c
  have hcompile : compile "(a==b)and!c" = .ok c := by rfl
  have hrelaid : Relaid 0 "(a==b)and!c".toList ts "\t( a==b)AND nOt c\n".toList := by
    have hc : Relaid 10 ['c'] [⟨.word "c", 10, 11⟩] [' ', 'c', '\n'] :=
      @Relaid.kept 10 [] [' '] ['c'] [] ['\n'] _ _ (by simp) (by decide) rfl rfl
        (.behind (by simp) (by decide))
    have hnot := @Relaid.respelled 9 [] [' '] ['!'] ['n', 'O', 't'] ['c'] [' ', 'c', '\n']
      ⟨.not, 9, 10⟩ _ (by simp) (by decide) rfl rfl
      (.inl ⟨"not", "!", by simp [Lexeme.connectives], by decide⟩) (by simp)
      (@setOff_gap [' '] (by decide) (by simp) ['c', '\n']) hc
    have hand := @Relaid.recased 6 [] [] ['a', 'n', 'd'] ['A', 'N', 'D'] _ _
      ⟨.and, 6, 9⟩ _ (by simp) (by decide) rfl rfl
      ⟨"and", "&&", by simp [Lexeme.connectives], by decide⟩
      ⟨"and", "&&", by simp [Lexeme.connectives], by decide⟩ hnot
    have hclosing := @Relaid.kept 5 [] [] [')'] _ _ ⟨.closing, 5, 6⟩ _ (by simp) (by decide)
      rfl rfl hand
    have hright := @Relaid.kept 4 [] [] ['b'] _ _ ⟨.word "b", 4, 5⟩ _ (by simp) (by decide)
      rfl rfl hclosing
    have hequal := @Relaid.kept 2 [] [] ['=', '='] _ _ ⟨.relation .equal, 2, 4⟩ _ (by simp)
      (by decide) rfl rfl hright
    have hleft := @Relaid.kept 1 [] [' '] ['a'] _ _ ⟨.word "a", 1, 2⟩ _ (by simp) (by decide)
      rfl rfl hequal
    exact @Relaid.kept 0 [] ['\t'] ['('] _ _ ⟨.opening, 0, 1⟩ _ (by simp) (by decide)
      rfl rfl hleft
  have hscan : scan "(a==b)and!c".toList = .ok ts := by rfl
  obtain ⟨us, hus, hlaid⟩ := compile_relaid hcompile
  obtain rfl : ts = us := Except.ok.inj (hscan.symm.trans hus)
  exact ⟨hcompile, hrelaid, hlaid _ hrelaid⟩

end Condition

end RowAlert
