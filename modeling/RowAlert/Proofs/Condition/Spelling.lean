import RowAlert.Proofs.Condition.Scanning
/-!
# RowAlert.Proofs.Condition.Spelling

**Texts that spell lexemes** wherever they stand.

Cutting a text into tokens looks ahead: a numeral, a name or an operator goes on as long as it can.
What is found in a text (`Cuts`) is what is found at every place and before everything that a blank
or a closing parenthesis keeps apart from it. If this is some lexemes, and no refusal, the text
*spells* them (`Spells`). Texts can be put together with blanks and parentheses, and every lexeme of
a printed condition has a spelling.
-/

namespace RowAlert

/-- Nothing follows, or what follows is kept apart. -/
def Delimited (rest : List Char) : Prop := ∀ c, rest.head? = some c → c = ' ' ∨ c = ')'

theorem delimited_nil : Delimited [] := fun _ h => by cases h

theorem delimited_blank (rest : List Char) : Delimited (' ' :: rest) := by
  rintro c ⟨⟩
  exact .inl rfl

theorem delimited_closing (rest : List Char) : Delimited (')' :: rest) := by
  rintro c ⟨⟩
  exact .inr rfl

theorem Delimited.stopsAt {rest : List Char} (h : Delimited rest) {p : Char → Bool}
    (hblank : p ' ' = false) (hclosing : p ')' = false) : Text.StopsAt p rest := by
  intro c hc
  rcases h c hc with rfl | rfl
  · exact hblank
  · exact hclosing

/-- The lexemes of a text from an offset on; none if it is refused. -/
def Token.lexemesFrom? (pos : Nat) (cs : List Char) : Option (List Lexeme) :=
  (Token.scanFrom 0 pos cs).toOption.map (List.map Token.lexeme)

theorem Token.exists_of_lexemesFrom? {pos : Nat} {cs : List Char} {ls : List Lexeme}
    (h : Token.lexemesFrom? pos cs = some ls) :
    ∃ ts, ts.map Token.lexeme = ls ∧ Token.scanFrom 0 pos cs = .ok ts := by
  obtain ⟨ts, hts, hls⟩ := Option.map_eq_some_iff.1 h
  refine ⟨ts, hls, ?_⟩
  cases hscan : Token.scanFrom 0 pos cs with
  | error refusal => rw [hscan] at hts; cases hts
  | ok us => rw [hscan] at hts; rw [Option.some.inj hts]

/-- What is found in a text, whatever is kept apart from it: some lexemes, or a place that is
refused. -/
def Cuts (cs : List Char) (found : Option (List Lexeme)) : Prop :=
  ∀ (pos : Nat) (rest : List Char), Delimited rest →
    Token.lexemesFrom? pos (cs ++ rest)
      = found.bind fun ls => (Token.lexemesFrom? (pos + cs.length) rest).map (ls ++ ·)

/-- The text is cut into these lexemes, whatever is kept apart from it. -/
def Spells (cs : List Char) (ls : List Lexeme) : Prop := Cuts cs (some ls)

namespace Cuts

/-! ### Putting texts together -/

/-- A text that stands alone is cut into what is found in it. -/
theorem scan {cs : List Char} {found : Option (List Lexeme)} (h : Cuts cs found) :
    (Token.scan cs).toOption.map (List.map Token.lexeme) = found := by
  have hscan := h 0 [] delimited_nil
  rw [List.append_nil] at hscan
  refine hscan.trans ?_
  cases found with
  | none => rfl
  | some ls => exact congrArg some (List.append_nil ls)

theorem blank {cs : List Char} {found : Option (List Lexeme)} (h : Cuts cs found) :
    Cuts (' ' :: cs) found := by
  intro pos rest hrest
  have hcs := h (pos + 1) rest hrest
  have hskip := Token.scanFrom_blank (c := ' ') rfl pos (cs ++ rest)
  rw [Nat.add_assoc, Nat.add_comm 1] at hcs
  rwa [List.cons_append, Token.lexemesFrom?, hskip, List.length_cons]

/-- Texts that are kept apart are cut in turn, up to the first that is refused. -/
theorem append {cs ds : List Char} {found behind : Option (List Lexeme)} (hcs : Cuts cs found)
    (hds : Cuts ds behind) (happart : ∀ rest, Delimited rest → Delimited (ds ++ rest)) :
    Cuts (cs ++ ds) (found.bind fun ls => behind.map (ls ++ ·)) := by
  intro pos rest hrest
  rw [List.append_assoc, hcs pos (ds ++ rest) (happart rest hrest), hds _ rest hrest,
    List.length_append, Nat.add_assoc]
  cases found with
  | none => rfl
  | some ls =>
    cases behind with
    | none => rfl
    | some ms =>
      simp only [Option.bind_some, Option.map_some, Option.map_map]
      congr 1
      funext us
      exact (List.append_assoc ls ms us).symm

theorem spaced {cs ds : List Char} {found behind : Option (List Lexeme)} (hcs : Cuts cs found)
    (hds : Cuts ds behind) : Cuts (cs ++ ' ' :: ds) (found.bind fun ls => behind.map (ls ++ ·)) :=
  hcs.append hds.blank fun rest _ => delimited_blank (ds ++ rest)

end Cuts

namespace Spells

theorem scan {cs : List Char} {ls : List Lexeme} (h : Spells cs ls) :
    ∃ ts, ts.map Token.lexeme = ls ∧ Token.scan cs = .ok ts :=
  Token.exists_of_lexemesFrom? (Cuts.scan h)

/-! ### Single lexemes -/

theorem scanFrom_pass (cs : List Char) (pos : Nat) (rest : List Char) :
    Token.scanFrom cs.length pos (cs ++ rest) = Token.scanFrom 0 (pos + cs.length) rest := by
  induction cs generalizing pos with
  | nil => rfl
  | cons c cs ih =>
    rw [List.length_cons, List.cons_append, Token.scanFrom_skip, ih, Nat.add_right_comm,
      Nat.add_assoc]

/-- A lexeme that stands at the front is cut off there. -/
theorem cut {c : Char} {cs rest : List Char} {l : Lexeme} (hblank : Text.isBlank c = false)
    (h : Lexeme.front? (c :: (cs ++ rest)) = some (l, cs.length + 1)) (pos : Nat) :
    Token.lexemesFrom? pos (c :: (cs ++ rest))
      = (Token.lexemesFrom? (pos + (cs.length + 1)) rest).map (l :: ·) := by
  rw [Token.lexemesFrom?, Token.lexemesFrom?, Token.scanFrom_lexeme hblank h, Nat.add_sub_cancel,
    scanFrom_pass, Nat.add_assoc, Nat.add_comm 1]
  cases Token.scanFrom 0 (pos + (cs.length + 1)) rest <;> rfl

theorem lexeme {c : Char} {cs : List Char} {l : Lexeme} (hblank : Text.isBlank c = false)
    (h : ∀ rest, Delimited rest → Lexeme.front? (c :: (cs ++ rest)) = some (l, cs.length + 1)) :
    Spells (c :: cs) [l] :=
  fun pos rest hrest => cut hblank (h rest hrest) pos

end Spells

/-- Whatever follows, a parenthesis stands alone. -/
theorem Cuts.group {cs : List Char} {found : Option (List Lexeme)} (h : Cuts cs found) :
    Cuts ('(' :: (cs ++ [')'])) (found.map fun ls => .opening :: (ls ++ [.closing])) := by
  have hclosing : Spells [')'] [.closing] := Spells.lexeme rfl fun rest _ => rfl
  have hclosed := h.append hclosing fun rest _ => delimited_closing rest
  intro pos rest hrest
  have hopening := @Spells.cut '(' [] (cs ++ [')'] ++ rest) .opening rfl rfl pos
  rw [List.cons_append]
  refine hopening.trans ?_
  rw [hclosed _ rest hrest, List.length_nil, Nat.add_assoc, List.length_cons,
    Nat.add_comm (0 + 1)]
  cases found with
  | none => rfl
  | some ls => simp [Function.comp_def]

namespace Spells

/-! ### Words -/

theorem range_of_startsWord {c : Char} (h : Lexeme.startsWord c = true) :
    65 ≤ c.toNat ∧ c.toNat ≤ 122 := by
  -- Letters and the underscore lie between `A` and `z`.
  rw [Lexeme.startsWord, Bool.or_eq_true, decide_eq_true_eq] at h
  rcases h with hletter | rfl
  · rcases Bool.or_eq_true_iff.1 hletter with hupper | hlower
    · have hrange : 'A'.toNat ≤ c.toNat ∧ c.toNat ≤ 'Z'.toNat := of_decide_eq_true hupper
      exact ⟨hrange.1, Nat.le_trans hrange.2 (by decide)⟩
    · obtain ⟨hleast, hgreatest⟩ := Bool.and_eq_true_iff.1 hlower
      have hrange : 'a'.toNat ≤ c.toNat ∧ c.toNat ≤ 'z'.toNat :=
        ⟨of_decide_eq_true hleast, of_decide_eq_true hgreatest⟩
      exact ⟨Nat.le_trans (by decide) hrange.1, hrange.2⟩
  · decide

theorem continuesWord_of_startsWord {c : Char} (h : Lexeme.startsWord c = true) :
    Lexeme.continuesWord c = true := by
  rw [Lexeme.startsWord, Bool.or_eq_true] at h
  rcases h with h | h <;> simp [Lexeme.continuesWord, Char.isAlphanum, h]

/-- No numeral begins with this character. -/
theorem numberWidth_eq_zero {c : Char} (cs : List Char) (hdigit : Text.isDigit c = false)
    (hminus : c ≠ '-') (hpoint : c ≠ '.') : Lexeme.numberWidth (c :: cs) = 0 := by
  have hhead : (c :: cs).head? ≠ some '-' ∧ (c :: cs).head? ≠ some '.' := by
    simpa using ⟨hminus, hpoint⟩
  have hunsigned : Lexeme.unsignedWidth ([] ++ c :: cs) = 0 :=
    Lexeme.unsignedWidth_whole (fun _ h => absurd h List.not_mem_nil)
      (Text.stopsAt_cons hdigit cs) hhead.2
  have hwidth := Lexeme.numberWidth_signed false fun _ => hhead.1
  rwa [← List.nil_append (c :: cs), hunsigned, if_pos rfl] at hwidth

/-- A word at the front is taken as far as it goes. -/
theorem front?_word {c : Char} {cs rest : List Char} (hc : Lexeme.startsWord c = true)
    (hcs : ∀ d ∈ cs, Lexeme.continuesWord d = true)
    (hrest : Text.StopsAt Lexeme.continuesWord rest) :
    Lexeme.front? (c :: (cs ++ rest)) = some (Lexeme.ofWord (c :: cs), cs.length + 1) := by
  have hrange := range_of_startsWord hc
  have hascii : ∀ d : Char, d.toNat < 65 → c ≠ d := by
    rintro d hd rfl
    omega
  have hdigit : Text.isDigit c = false := by
    rw [Text.isDigit, Text.digit?_of_ascii (by omega), if_neg]
    · rfl
    · rw [Text.isDigit_iff_range]
      omega
  have hwidth := numberWidth_eq_zero (cs ++ rest) hdigit (hascii '-' (by decide))
    (hascii '.' (by decide))
  have hword : ∀ d ∈ c :: cs, Lexeme.continuesWord d = true := by
    rintro d (_ | ⟨_, hd⟩)
    · exact continuesWord_of_startsWord hc
    · exact hcs d hd
  have htake : (c :: (cs ++ rest)).takeWhile Lexeme.continuesWord = c :: cs :=
    Text.takeWhile_run hword hrest
  simp only [Lexeme.front?, hwidth, ne_eq, not_true_eq_false, if_false,
    hascii '"' (by decide), hascii '\'' (by decide), decide_false, Bool.or_false,
    Bool.false_eq_true, hc, if_true, htake, List.length_cons]

theorem word {c : Char} {cs : List Char} (hc : Lexeme.startsWord c = true)
    (hcs : ∀ d ∈ cs, Lexeme.continuesWord d = true) : Spells (c :: cs) [Lexeme.ofWord (c :: cs)] := by
  have hrange := range_of_startsWord hc
  exact lexeme (Text.not_isBlank_of_range (by omega)) fun rest hrest =>
    front?_word hc hcs (hrest.stopsAt (by decide) (by decide))

/-! ### Relations, quoted texts and numerals -/

/-- A relation is not taken for the beginning of a longer one. -/
theorem relation {r : Relation} (h : r ∈ Relation.all) : Spells r.symbol.toList [.relation r] := by
  have hend : ∀ rest, Delimited rest →
      rest = [] ∨ ∃ c cs, rest = c :: cs ∧ (c = ' ' ∨ c = ')') := by
    rintro (_ | ⟨c, cs⟩) hrest
    · exact .inl rfl
    · exact .inr ⟨c, cs, rfl, hrest c rfl⟩
  simp only [Relation.all, List.mem_cons, List.not_mem_nil, or_false] at h
  rcases h with rfl | rfl | rfl | rfl | rfl | rfl
  all_goals
    refine lexeme rfl fun rest hrest => ?_
    obtain rfl | ⟨c, cs, rfl, rfl | rfl⟩ := hend rest hrest <;> rfl

/-- Escaping is undone by reading up to the closing quote. -/
theorem quotedBody?_escapeLiteral (cs rest : List Char) :
    Lexeme.quotedBody? '"' (escapeLiteral cs ++ '"' :: rest)
      = some (cs, (escapeLiteral cs).length + 1) := by
  induction cs with
  | nil => rfl
  | cons c cs ih =>
    by_cases hspecial : c = '\\' ∨ c = '"'
    · have hescape : escapeLiteral (c :: cs) = '\\' :: c :: escapeLiteral cs := by
        simp [escapeLiteral, hspecial]
      have hfeed : c ≠ '\n' := by rcases hspecial with rfl | rfl <;> decide
      rw [hescape, List.cons_append, List.cons_append, Lexeme.quotedBody?, if_neg hfeed, ih]
      rfl
    · obtain ⟨hbackslash, hquote⟩ := not_or.1 hspecial
      have hescape : escapeLiteral (c :: cs) = c :: escapeLiteral cs := by
        simp [escapeLiteral, hspecial]
      rw [hescape, List.cons_append, Lexeme.quotedBody?.eq_def]
      split
      · cases ‹_ :: _ = []›
      · exact absurd (List.cons.inj ‹_›).1 hbackslash
      · rename_i heq
        obtain ⟨rfl, rfl⟩ := List.cons.inj heq
        rw [if_neg hquote, if_neg hbackslash, ih]
        rfl

/-- A text in quotes is taken up to its closing quote. -/
theorem quoted (s : String) :
    Spells ('"' :: (escapeLiteral s.toList ++ ['"'])) [.text s] := by
  refine lexeme rfl fun rest _ => ?_
  have hwidth : Lexeme.numberWidth ('"' :: (escapeLiteral s.toList ++ ['"'] ++ rest)) = 0 :=
    numberWidth_eq_zero _ (by decide) (by decide) (by decide)
  have hbody := quotedBody?_escapeLiteral s.toList rest
  rw [← List.singleton_append, ← List.append_assoc] at hbody
  simp only [Lexeme.front?, hwidth, ne_eq, not_true_eq_false, if_false, decide_true, Bool.true_or,
    if_true, hbody, Option.map_some, String.ofList_toList, List.length_append,
    List.length_singleton]

/-- A numeral is taken in full. -/
theorem numeral {f : NumeralForm} (h : f.Valid Char.isDigit) :
    Spells f.chars [.number (String.ofList f.chars)] := by
  obtain ⟨c, cs, hcs⟩ : ∃ c cs, f.chars = c :: cs := by
    obtain ⟨c, cs, hcs, -⟩ := h.exists_unsignedChars
    rw [NumeralForm.chars, hcs]
    cases f.negative with
    | false => exact ⟨c, cs, rfl⟩
    | true => exact ⟨'-', c :: cs, rfl⟩
  have hc : c ∈ f.chars := by
    rw [hcs]
    exact List.mem_cons_self
  have hblank := Text.not_isBlank_of_range (NumeralForm.range_of_isPlainChar (h.isPlainChar hc))
  rw [hcs]
  refine lexeme hblank fun rest hrest => ?_
  have hwidth := Lexeme.numberWidth_chars h.ofPlain (hrest.stopsAt (by decide) (by decide))
  rw [hcs, List.cons_append, List.length_cons] at hwidth
  have htake : (c :: cs ++ rest).take (c :: cs).length = c :: cs := List.take_left
  rw [List.cons_append, List.length_cons] at htake
  simp only [Lexeme.front?, hwidth, ne_eq, Nat.add_one_ne_zero, not_false_eq_true, if_true, htake]

end Spells

end RowAlert
