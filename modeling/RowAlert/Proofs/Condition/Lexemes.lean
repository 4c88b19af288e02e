import RowAlert.Proofs.Condition.Lookahead
import RowAlert.Proofs.Number.Digits
/-!
# RowAlert.Proofs.Condition.Lexemes

**Which characters write which lexeme**, said without the scanner.

Every class of lexemes is a language of its own (`Written`): numerals, texts in quotes, relations,
parentheses, the spellings of the connectives, and names. The scanner takes the longest text of any of
them (`front?_eq_some_iff`), and nothing exactly where none begins (`front?_eq_none_iff`). What it takes
does therefore not depend on what stands behind (`front?_of_append`).
-/

namespace RowAlert

namespace Lexeme

/-! ### The languages of lexemes -/

/-- The connectives, each with its word and its symbol. -/
def connectives : List (Lexeme × String × String) :=
  [(and, "and", "&&"), (or, "or", "||"), (not, "not", "!")]

/-- The word of a connective, in any letter case. -/
def SpelledOut (l : Lexeme) (cs : List Char) : Prop :=
  ∃ word symbol, (l, word, symbol) ∈ connectives ∧ cs.map Char.toLower = word.toList

/-- The symbol of a connective. -/
def Symbolic (l : Lexeme) (cs : List Char) : Prop :=
  ∃ word symbol, (l, word, symbol) ∈ connectives ∧ cs = symbol.toList

/-- The characters between two quotes, and the content that they stand for. -/
inductive Quotes (quote : Char) : List Char → List Char → Prop
  | done : Quotes quote [] []
  | plain {c : Char} {body content : List Char} (hquote : c ≠ quote) (hbackslash : c ≠ '\\')
      (h : Quotes quote body content) : Quotes quote (c :: body) (c :: content)
  /-- A backslash takes the next character as it is, unless that is a line feed. -/
  | escaped {c : Char} {body content : List Char} (hfeed : c ≠ '\n')
      (h : Quotes quote body content) : Quotes quote ('\\' :: c :: body) (c :: content)

/-- The characters write the lexeme. -/
inductive Written : List Char → Lexeme → Prop
  | numeral {f : NumeralForm} (h : f.Valid Text.isDigit) :
      Written f.chars (number (String.ofList f.chars))
  | quoted {quote : Char} {body content : List Char} (hquote : quote = '"' ∨ quote = '\'')
      (h : Quotes quote body content) :
      Written (quote :: (body ++ [quote])) (text (String.ofList content))
  | relation {r : Relation} (h : r ∈ Relation.all) : Written r.symbol.toList (relation r)
  | opening : Written ['('] opening
  | closing : Written [')'] closing
  | symbol {l : Lexeme} {cs : List Char} (h : Symbolic l cs) : Written cs l
  | connective {l : Lexeme} {cs : List Char} (h : SpelledOut l cs) : Written cs l
  | name {c : Char} {cs : List Char} (hc : startsWord c = true)
      (hcs : ∀ d ∈ cs, continuesWord d = true) (hname : ∀ l, ¬SpelledOut l (c :: cs)) :
      Written (c :: cs) (word (String.ofList (c :: cs)))

/-- The lexeme is written at the front of the text, and no longer front of it writes one. -/
structure Longest (cs : List Char) (l : Lexeme) (width : Nat) : Prop where
  le_length : width ≤ cs.length
  written : Written (cs.take width) l
  longest : ∀ {p : List Char} {m : Lexeme}, p <+: cs → Written p m → p.length ≤ width

/-! ### Words -/

theorem startsWord_of_toLower {c : Char} (h : c.toLower.isAlpha = true) : startsWord c = true := by
  have hc : c.isAlpha = true := by
    unfold Char.toLower at h
    split at h
    · rename_i hupper
      have hrange : 'A'.toNat ≤ c.toNat ∧ c.toNat ≤ 'Z'.toNat := hupper
      exact Bool.or_eq_true_iff.2 (.inl (decide_eq_true hrange))
    · exact h
  simp [startsWord, hc]

/-- The word of a connective is a word. -/
theorem SpelledOut.word {l : Lexeme} {cs : List Char} (h : SpelledOut l cs) :
    ∃ c ds, cs = c :: ds ∧ startsWord c = true ∧ ∀ d ∈ ds, continuesWord d = true := by
  obtain ⟨word, symbol, hmem, hcs⟩ := h
  have hletters : word.toList.all Char.isAlpha = true := by
    simp only [connectives, List.mem_cons, List.not_mem_nil, or_false] at hmem
    rcases hmem with heq | heq | heq <;> cases heq <;> decide
  have hstarts : ∀ c ∈ cs, startsWord c = true := by
    intro c hc
    exact startsWord_of_toLower (List.all_eq_true.1 hletters _ (hcs ▸ List.mem_map_of_mem hc))
  cases cs with
  | nil =>
    simp only [connectives, List.mem_cons, List.not_mem_nil, or_false] at hmem
    rcases hmem with heq | heq | heq <;> cases heq <;> cases hcs
  | cons c ds =>
    refine ⟨c, ds, rfl, hstarts c List.mem_cons_self, fun d hd => ?_⟩
    exact Spells.continuesWord_of_startsWord (hstarts d (List.mem_cons_of_mem c hd))

theorem ofWord_of_spelledOut {l : Lexeme} {cs : List Char} (h : SpelledOut l cs) :
    ofWord cs = l := by
  obtain ⟨word, symbol, hmem, hcs⟩ := h
  simp only [ofWord, hcs]
  simp only [connectives, List.mem_cons, List.not_mem_nil, or_false] at hmem
  rcases hmem with heq | heq | heq <;> cases heq <;> rfl

theorem ofWord_of_not_spelledOut {cs : List Char} (h : ∀ l, ¬SpelledOut l cs) :
    ofWord cs = word (String.ofList cs) := by
  have hne : ∀ l w s, (l, w, s) ∈ connectives → String.ofList (cs.map Char.toLower) ≠ w := by
    intro l w s hmem heq
    exact h l ⟨w, s, hmem, by rw [← heq, String.toList_ofList]⟩
  have hand := hne and "and" "&&" (by simp [connectives])
  have hor := hne or "or" "||" (by simp [connectives])
  have hnot := hne not "not" "!" (by simp [connectives])
  simp only [ofWord, hand, hor, hnot, if_false]

/-- A word writes what it is taken for. -/
theorem written_ofWord {c : Char} {cs : List Char} (hc : startsWord c = true)
    (hcs : ∀ d ∈ cs, continuesWord d = true) : Written (c :: cs) (ofWord (c :: cs)) := by
  by_cases h : ∃ l, SpelledOut l (c :: cs)
  · obtain ⟨l, hl⟩ := h
    rw [ofWord_of_spelledOut hl]
    exact .connective hl
  · have hname := not_exists.1 h
    rw [ofWord_of_not_spelledOut hname]
    exact .name hc hcs hname

/-- What is written as a lexeme begins with a character that is not blank. -/
theorem Written.exists_cons {p : List Char} {l : Lexeme} (h : Written p l) :
    ∃ c cs, p = c :: cs ∧ Text.isBlank c = false := by
  have hword : ∀ {c : Char}, startsWord c = true → Text.isBlank c = false := by
    intro c hc
    have hrange := Spells.range_of_startsWord hc
    exact Text.not_isBlank_of_range (by omega)
  cases h with
  | @numeral f hf =>
    obtain ⟨d, hd, -⟩ := hf.exists_digit
    obtain ⟨c, cs, hcs⟩ := List.exists_cons_of_ne_nil (List.ne_nil_of_mem hd)
    exact ⟨c, cs, hcs, hf.not_isBlank (hcs ▸ List.mem_cons_self)⟩
  | quoted hquote _ => exact ⟨_, _, rfl, by rcases hquote with rfl | rfl <;> decide⟩
  | relation hr =>
    simp only [Relation.all, List.mem_cons, List.not_mem_nil, or_false] at hr
    rcases hr with rfl | rfl | rfl | rfl | rfl | rfl <;> exact ⟨_, _, rfl, by decide⟩
  | opening => exact ⟨_, _, rfl, by decide⟩
  | closing => exact ⟨_, _, rfl, by decide⟩
  | symbol hl =>
    obtain ⟨w, s, hmem, rfl⟩ := hl
    simp only [connectives, List.mem_cons, List.not_mem_nil, or_false] at hmem
    rcases hmem with heq | heq | heq <;> cases heq <;> exact ⟨_, _, rfl, by decide⟩
  | connective hl =>
    obtain ⟨c, cs, rfl, hc, -⟩ := hl.word
    exact ⟨c, cs, rfl, hword hc⟩
  | name hc _ _ => exact ⟨_, _, rfl, hword hc⟩

/-! ### Numerals -/

/-- The text of an exponent is measured at least in full. -/
theorem length_le_exponentWidth {e : ExponentForm} (h : e.Valid Text.isDigit) (rest : List Char) :
    e.chars.length ≤ exponentWidth (e.chars ++ rest) := by
  obtain ⟨ds, behind, rfl, hds, hbehind⟩ := Text.exists_run Text.isDigit rest
  have hlonger : ExponentForm.Valid Text.isDigit ⟨e.capital, e.sign, e.digits ++ ds⟩ := by
    refine ⟨List.append_ne_nil_of_left_ne_nil h.nonempty ds, fun c hc => ?_⟩
    rcases List.mem_append.1 hc with hc | hc
    · exact h.digits c hc
    · exact hds c hc
  have hwidth := exponentWidth_chars hlonger hbehind
  have hchars : ExponentForm.chars ⟨e.capital, e.sign, e.digits ++ ds⟩ = e.chars ++ ds := by
    simp [ExponentForm.chars]
  rw [hchars, List.append_assoc] at hwidth
  rw [hwidth, List.length_append]
  exact Nat.le_add_right _ _

/-- Digits and a point are measured at least in full. -/
theorem length_le_unsignedWidth {f : NumeralForm} (h : f.Valid Text.isDigit) (rest : List Char) :
    (f.whole ++ NumeralForm.fractionChars f.fraction).length ≤
      unsignedWidth (f.whole ++ (NumeralForm.fractionChars f.fraction ++ rest)) := by
  obtain ⟨ds, behind, rfl, hds, hbehind⟩ := Text.exists_run Text.isDigit rest
  have hfraction := h.fraction
  have hnonempty := h.nonempty
  unfold NumeralForm.fractionDigits at hfraction hnonempty
  cases hf : f.fraction with
  | some fs =>
    rw [hf, Option.getD_some] at hfraction hnonempty
    have hlonger : ∀ c ∈ fs ++ ds, Text.isDigit c = true := by
      intro c hc
      rcases List.mem_append.1 hc with hc | hc
      · exact hfraction c hc
      · exact hds c hc
    have hwidth := unsignedWidth_fraction h.whole hlonger hbehind
    have hnot : ¬(f.whole = [] ∧ fs ++ ds = []) := by
      simp only [List.append_eq_nil_iff]
      intro hnil
      exact hnonempty.elim (absurd hnil.1) (absurd hnil.2.1)
    rw [if_neg hnot, List.append_assoc] at hwidth
    rw [NumeralForm.fractionChars, List.cons_append, hwidth]
    simp only [List.length_append, List.length_cons]
    omega
  | none =>
    have hlonger : ∀ c ∈ f.whole ++ ds, Text.isDigit c = true := by
      intro c hc
      rcases List.mem_append.1 hc with hc | hc
      · exact h.whole c hc
      · exact hds c hc
    have hne : f.whole ≠ [] := by simpa [hf] using hnonempty
    simp only [NumeralForm.fractionChars, List.append_nil, List.nil_append]
    rw [← List.append_assoc]
    by_cases hpoint : behind.head? = some '.'
    · obtain ⟨tail, rfl⟩ := List.head?_eq_some_iff.1 hpoint
      obtain ⟨fs, behind, rfl, hfs, hstops⟩ := Text.exists_run Text.isDigit tail
      rw [unsignedWidth_fraction hlonger hfs hstops, if_neg (by simp [hne])]
      simp only [List.length_append]
      omega
    · rw [unsignedWidth_whole hlonger hbehind hpoint, List.length_append]
      exact Nat.le_add_right _ _

/-- The text of a numeral is measured at least in full. -/
theorem length_le_numberWidth {f : NumeralForm} (h : f.Valid Text.isDigit) (rest : List Char) :
    f.chars.length ≤ numberWidth (f.chars ++ rest) := by
  have hpos := length_digits_pos h
  have hdigits := length_le_unsignedWidth h (NumeralForm.exponentChars f.exponent ++ rest)
  have hsign := unsignedChars_append_ne_minus h rest
  have hchars : f.chars ++ rest = Number.signText f.negative ++ (f.whole ++
      (NumeralForm.fractionChars f.fraction ++ (NumeralForm.exponentChars f.exponent ++ rest))) := by
    simp [NumeralForm.chars, NumeralForm.unsignedChars]
  have hlength : f.chars.length = (Number.signText f.negative).length +
      (f.whole ++ NumeralForm.fractionChars f.fraction).length +
      (NumeralForm.exponentChars f.exponent).length := by
    simp only [NumeralForm.chars, NumeralForm.unsignedChars, List.length_append]
    omega
  simp only [NumeralForm.unsignedChars, List.append_assoc] at hsign
  rw [hchars, numberWidth_signed f.negative fun _ => hsign, if_neg (by omega), hlength]
  cases he : f.exponent with
  | none =>
    rw [he] at hdigits
    simp only [NumeralForm.exponentChars, List.length_nil] at hdigits ⊢
    omega
  | some e =>
    -- The mark of an exponent ends the digits in front of it.
    have hmark : ∀ p : Char → Bool, p 'e' = false → p 'E' = false →
        Text.StopsAt p (e.chars ++ rest) := by
      intro p hlower hupper
      refine Text.stopsAt_cons ?_ _
      cases e.capital
      · exact hlower
      · exact hupper
    have hpoint : (e.chars ++ rest).head? ≠ some '.' := by
      intro hhead
      cases hmark (fun c => c = '.') (by decide) (by decide) '.' hhead
    have hexact := unsignedWidth_digits h (hmark Text.isDigit (by decide) (by decide))
      fun _ => hpoint
    have hexponent := length_le_exponentWidth (h.exponent e he) rest
    simp only [NumeralForm.exponentChars]
    rw [hexact, ← List.append_assoc f.whole, List.drop_left]
    omega

/-! ### Texts in quotes -/

/-- A text in quotes is read up to its closing quote. -/
theorem Quotes.quotedBody? {quote : Char} (hquote : quote ≠ '\\') {body content : List Char}
    (h : Quotes quote body content) (rest : List Char) :
    Lexeme.quotedBody? quote (body ++ quote :: rest) = some (content, body.length + 1) := by
  induction h with
  | done => rw [List.nil_append, quotedBody?_of_ne hquote, if_pos rfl, List.length_nil]
  | plain hne hbackslash _ ih =>
    rw [List.cons_append, quotedBody?_of_ne hbackslash, if_neg hne, ih]
    rfl
  | escaped hfeed _ ih =>
    rw [List.cons_append, List.cons_append, Lexeme.quotedBody?, if_neg hfeed, ih]
    rfl

/-- What is read up to a closing quote stands in quotes. -/
theorem exists_quotes {quote : Char} (hquote : quote ≠ '\\') {cs content : List Char} {width : Nat}
    (h : quotedBody? quote cs = some (content, width)) :
    ∃ body rest, cs = body ++ quote :: rest ∧ width = body.length + 1 ∧
      Quotes quote body content := by
  induction cs using quotedBody?.induct quote generalizing content width with
  | case1 => cases h
  | case2 cs => cases h
  | case3 c cs hfeed ih =>
    rw [quotedBody?, if_neg hfeed] at h
    obtain ⟨⟨inner, n⟩, hinner, heq⟩ := Option.map_eq_some_iff.1 h
    obtain ⟨rfl, rfl⟩ := Prod.mk.inj heq
    obtain ⟨body, rest, rfl, rfl, hbody⟩ := ih hinner
    exact ⟨'\\' :: c :: body, rest, rfl, rfl, .escaped hfeed hbody⟩
  | case4 cs _ =>
    rw [quotedBody?_of_ne hquote, if_pos rfl] at h
    obtain ⟨rfl, rfl⟩ := Prod.mk.inj (Option.some.inj h)
    exact ⟨[], cs, rfl, rfl, .done⟩
  | case5 cs hcs _ =>
    -- A backslash at the end takes no character.
    cases cs with
    | nil =>
      rw [quotedBody?.eq_3 quote '\\' [] hcs, if_neg (Ne.symm hquote), if_pos rfl] at h
      cases h
    | cons c cs => exact absurd rfl (hcs c cs rfl)
  | case6 c cs _ hc hbackslash ih =>
    rw [quotedBody?_of_ne hbackslash, if_neg hc] at h
    obtain ⟨⟨inner, n⟩, hinner, heq⟩ := Option.map_eq_some_iff.1 h
    obtain ⟨rfl, rfl⟩ := Prod.mk.inj heq
    obtain ⟨body, rest, rfl, rfl, hbody⟩ := ih hinner
    exact ⟨c :: body, rest, rfl, rfl, .plain hc hbackslash hbody⟩

/-! ### The longest lexeme -/

/-- An operator at the front is written there. -/
theorem exists_written_of_operator? {cs : List Char} {l : Lexeme} {width : Nat}
    (h : operator? cs = some (l, width)) :
    ∃ p rest, cs = p ++ rest ∧ p.length = width ∧ Written p l := by
  unfold operator? at h
  split at h <;> cases h
  · exact ⟨['<', '='], _, rfl, rfl, .relation (r := .atMost) (by decide)⟩
  · exact ⟨['>', '='], _, rfl, rfl, .relation (r := .atLeast) (by decide)⟩
  · exact ⟨['=', '='], _, rfl, rfl, .relation (r := .equal) (by decide)⟩
  · exact ⟨['!', '='], _, rfl, rfl, .relation (r := .different) (by decide)⟩
  · exact ⟨['&', '&'], _, rfl, rfl, .symbol ⟨"and", "&&", by simp [connectives], rfl⟩⟩
  · exact ⟨['|', '|'], _, rfl, rfl, .symbol ⟨"or", "||", by simp [connectives], rfl⟩⟩
  · exact ⟨['<'], _, rfl, rfl, .relation (r := .less) (by decide)⟩
  · exact ⟨['>'], _, rfl, rfl, .relation (r := .greater) (by decide)⟩
  · exact ⟨['!'], _, rfl, rfl, .symbol ⟨"not", "!", by simp [connectives], rfl⟩⟩
  · exact ⟨['('], _, rfl, rfl, .opening⟩
  · exact ⟨[')'], _, rfl, rfl, .closing⟩

/-- What the scanner takes is written at the front. -/
theorem exists_written_of_front? {cs : List Char} {l : Lexeme} {width : Nat}
    (h : front? cs = some (l, width)) :
    ∃ p rest, cs = p ++ rest ∧ p.length = width ∧ Written p l := by
  unfold front? at h
  split at h
  · cases h
  rename_i c cs
  dsimp only at h
  split at h
  · -- A numeral.
    rename_i hwidth
    obtain ⟨rfl, rfl⟩ := Prod.mk.inj (Option.some.inj h)
    obtain ⟨f, hf, hchars⟩ := exists_numeral_of_numberWidth hwidth
    refine ⟨f.chars, (c :: cs).drop (numberWidth (c :: cs)), ?_, ?_, ?_⟩
    · rw [← hchars, List.take_append_drop]
    · rw [← hchars, List.length_take_of_le (measures_numberWidth.le _)]
    · rw [hchars]
      exact .numeral hf
  split at h
  · -- A text in quotes.
    rename_i hquote
    obtain ⟨⟨content, n⟩, hbody, heq⟩ := Option.map_eq_some_iff.1 h
    obtain ⟨rfl, rfl⟩ := Prod.mk.inj heq
    have hquotes : c = '"' ∨ c = '\'' := by simpa using hquote
    have hne : c ≠ '\\' := by rcases hquotes with rfl | rfl <;> decide
    obtain ⟨body, rest, rfl, rfl, hcontent⟩ := exists_quotes hne hbody
    exact ⟨c :: (body ++ [c]), rest, by simp, by simp, .quoted hquotes hcontent⟩
  split at h
  · -- A word.
    rename_i hstarts
    obtain ⟨rfl, rfl⟩ := Prod.mk.inj (Option.some.inj h)
    refine ⟨_, _, List.takeWhile_append_dropWhile.symm, rfl, ?_⟩
    rw [List.takeWhile_cons_of_pos (Spells.continuesWord_of_startsWord hstarts)]
    exact written_ofWord hstarts fun d hd => List.all_eq_true.1 List.all_takeWhile d hd
  · exact exists_written_of_operator? h

/-- At the front of the text the scanner reaches the end of a lexeme, or goes on. -/
def Reaches (cs : List Char) (l : Lexeme) (rest : List Char) : Prop :=
  ∃ m width, front? (cs ++ rest) = some (m, width) ∧ cs.length ≤ width ∧
    (width = cs.length → m = l)

theorem reaches_of_front? {cs rest : List Char} {l : Lexeme}
    (h : front? (cs ++ rest) = some (l, cs.length)) : Reaches cs l rest :=
  ⟨l, cs.length, h, Nat.le_refl _, fun _ => rfl⟩

theorem reaches_numeral {f : NumeralForm} (h : f.Valid Text.isDigit) (rest : List Char) :
    Reaches f.chars (number (String.ofList f.chars)) rest := by
  have hle := length_le_numberWidth h rest
  obtain ⟨d, hd, -⟩ := h.exists_digit
  have hpos := List.length_pos_of_mem hd
  have hfront : front? (f.chars ++ rest) = some (number (String.ofList
      ((f.chars ++ rest).take (numberWidth (f.chars ++ rest)))), numberWidth (f.chars ++ rest)) := by
    generalize f.chars ++ rest = cs at hle ⊢
    cases cs with
    | nil => exact absurd hle (Nat.not_le_of_lt hpos)
    | cons c cs => simp only [front?, if_pos (show numberWidth (c :: cs) ≠ 0 by omega)]
  refine ⟨_, _, hfront, hle, ?_⟩
  intro hwidth
  rw [hwidth, List.take_left]

/-- A quote begins a text in quotes or nothing. -/
theorem front?_of_quote {quote : Char} (h : quote = '"' ∨ quote = '\'') (cs : List Char) :
    front? (quote :: cs) =
      (quotedBody? quote cs).map fun (body, w) => (text (String.ofList body), w + 1) := by
  have hwidth : numberWidth (quote :: cs) = 0 := by
    refine Spells.numberWidth_eq_zero cs ?_ ?_ ?_ <;> rcases h with rfl | rfl <;> decide
  have hquote : (quote = '"' || quote = '\'') = true := by simpa using h
  simp only [front?, hwidth, ne_eq, not_true_eq_false, if_false, hquote, if_true]

theorem reaches_quoted {quote : Char} {body content : List Char} (h : quote = '"' ∨ quote = '\'')
    (hcontent : Quotes quote body content) (rest : List Char) :
    Reaches (quote :: (body ++ [quote])) (text (String.ofList content)) rest := by
  have hne : quote ≠ '\\' := by rcases h with rfl | rfl <;> decide
  refine reaches_of_front? ?_
  rw [List.cons_append, List.append_assoc, List.singleton_append, front?_of_quote h,
    hcontent.quotedBody? hne rest]
  simp

theorem reaches_word {c : Char} {cs : List Char} (hc : startsWord c = true)
    (hcs : ∀ d ∈ cs, continuesWord d = true) (rest : List Char) :
    Reaches (c :: cs) (ofWord (c :: cs)) rest := by
  obtain ⟨ds, behind, rfl, hds, hbehind⟩ := Text.exists_run continuesWord rest
  have hlonger : ∀ d ∈ cs ++ ds, continuesWord d = true := by
    intro d hd
    rcases List.mem_append.1 hd with hd | hd
    · exact hcs d hd
    · exact hds d hd
  have hfront := Spells.front?_word hc hlonger hbehind
  rw [List.append_assoc] at hfront
  refine ⟨_, _, hfront, ?_, ?_⟩
  · rw [List.length_cons, List.length_append]
    omega
  · intro hlength
    have hnil : ds = [] := by
      rw [List.length_cons, List.length_append] at hlength
      exact List.length_eq_zero_iff.1 (by omega)
    rw [hnil, List.append_nil]

/-- The characters with which operators begin. -/
def operatorChars : List Char := ['<', '>', '=', '!', '&', '|', '(', ')']

/-- A character of an operator begins an operator or nothing. -/
theorem front?_of_operatorChar {c : Char} (h : c ∈ operatorChars) (cs : List Char) :
    front? (c :: cs) = operator? (c :: cs) := by
  obtain ⟨hdigit, hminus, hpoint, hquote, hword⟩ : Text.isDigit c = false ∧ c ≠ '-' ∧ c ≠ '.' ∧
      (c = '"' || c = '\'') = false ∧ startsWord c = false := by
    simp only [operatorChars, List.mem_cons, List.not_mem_nil, or_false] at h
    rcases h with rfl | rfl | rfl | rfl | rfl | rfl | rfl | rfl <;> decide
  have hwidth := Spells.numberWidth_eq_zero cs hdigit hminus hpoint
  simp only [front?, hwidth, ne_eq, not_true_eq_false, if_false, hquote, hword, Bool.false_eq_true]

theorem reaches_operator {c : Char} {cs rest : List Char} {l : Lexeme} (hc : c ∈ operatorChars)
    (h : operator? (c :: (cs ++ rest)) = some (l, cs.length + 1)) : Reaches (c :: cs) l rest :=
  reaches_of_front? ((front?_of_operatorChar hc (cs ++ rest)).trans h)

/-- The operators that begin longer ones. -/
theorem reaches_single {c : Char} {l : Lexeme}
    (h : (c, l) ∈ [('<', relation .less), ('>', relation .greater), ('!', not)]) (rest : List Char) :
    Reaches [c] l rest := by
  simp only [List.mem_cons, List.not_mem_nil, or_false, Prod.mk.injEq] at h
  by_cases hequals : ∃ tail, rest = '=' :: tail
  · obtain ⟨tail, rfl⟩ := hequals
    rcases h with ⟨rfl, rfl⟩ | ⟨rfl, rfl⟩ | ⟨rfl, rfl⟩
    all_goals exact ⟨_, 2, front?_of_operatorChar (by decide) _, by decide, by decide⟩
  · have hne : ∀ tail, rest ≠ '=' :: tail := not_exists.1 hequals
    rcases h with ⟨rfl, rfl⟩ | ⟨rfl, rfl⟩ | ⟨rfl, rfl⟩
    · exact reaches_operator (by decide) (operator?.eq_7 rest hne)
    · exact reaches_operator (by decide) (operator?.eq_8 rest hne)
    · exact reaches_operator (by decide) (operator?.eq_9 rest hne)

theorem reaches_relation {r : Relation} (h : r ∈ Relation.all) (rest : List Char) :
    Reaches r.symbol.toList (relation r) rest := by
  simp only [Relation.all, List.mem_cons, List.not_mem_nil, or_false] at h
  rcases h with rfl | rfl | rfl | rfl | rfl | rfl
  · exact reaches_single (c := '<') (by decide) rest
  · exact reaches_operator (c := '<') (by decide) rfl
  · exact reaches_single (c := '>') (by decide) rest
  · exact reaches_operator (c := '>') (by decide) rfl
  · exact reaches_operator (c := '=') (by decide) rfl
  · exact reaches_operator (c := '!') (by decide) rfl

theorem reaches_symbol {l : Lexeme} {cs : List Char} (h : Symbolic l cs) (rest : List Char) :
    Reaches cs l rest := by
  obtain ⟨w, s, hmem, rfl⟩ := h
  simp only [connectives, List.mem_cons, List.not_mem_nil, or_false] at hmem
  rcases hmem with heq | heq | heq <;> cases heq
  · exact reaches_operator (c := '&') (by decide) rfl
  · exact reaches_operator (c := '|') (by decide) rfl
  · exact reaches_single (c := '!') (by decide) rest

/-- Whatever is written at the front of a text, the scanner takes a lexeme there that is as long, and the
same one unless it is longer. -/
theorem reaches_of_written {p : List Char} {l : Lexeme} (h : Written p l) (rest : List Char) :
    Reaches p l rest := by
  cases h with
  | numeral hf => exact reaches_numeral hf rest
  | quoted hquote hcontent => exact reaches_quoted hquote hcontent rest
  | relation hr => exact reaches_relation hr rest
  | opening => exact reaches_operator (by decide) rfl
  | closing => exact reaches_operator (by decide) rfl
  | symbol hl => exact reaches_symbol hl rest
  | connective hl =>
    obtain ⟨c, cs, rfl, hc, hcs⟩ := hl.word
    rw [← ofWord_of_spelledOut hl]
    exact reaches_word hc hcs rest
  | name hc hcs hname =>
    rw [← ofWord_of_not_spelledOut hname]
    exact reaches_word hc hcs rest

/-- The scanner takes the longest lexeme that is written at the front. -/
theorem front?_eq_some_iff {cs : List Char} {l : Lexeme} {width : Nat} :
    front? cs = some (l, width) ↔ Longest cs l width := by
  constructor
  · intro h
    obtain ⟨p, rest, rfl, rfl, hp⟩ := exists_written_of_front? h
    refine ⟨?_, ?_, ?_⟩
    · rw [List.length_append]
      exact Nat.le_add_right _ _
    · rwa [List.take_left]
    · intro q m hq hm
      obtain ⟨behind, hbehind⟩ := hq
      obtain ⟨m', width, hfront, hle, -⟩ := reaches_of_written hm behind
      rw [hbehind, h] at hfront
      obtain ⟨-, rfl⟩ := Prod.mk.inj (Option.some.inj hfront)
      exact hle
  · intro h
    obtain ⟨m, width', hfront, hle, heq⟩ := reaches_of_written h.written (cs.drop width)
    rw [List.take_append_drop] at hfront
    rw [List.length_take_of_le h.le_length] at hle heq
    obtain ⟨p, rest, rfl, rfl, hp⟩ := exists_written_of_front? hfront
    have hwidth := Nat.le_antisymm (h.longest (List.prefix_append p rest) hp) hle
    rw [hfront, heq hwidth, hwidth]

/-- The scanner takes nothing exactly where no lexeme is written. -/
theorem front?_eq_none_iff {cs : List Char} :
    front? cs = none ↔ ∀ p l, p <+: cs → ¬Written p l := by
  constructor
  · intro h p l hp hl
    obtain ⟨rest, rfl⟩ := hp
    obtain ⟨m, width, hfront, -⟩ := reaches_of_written hl rest
    rw [h] at hfront
    cases hfront
  · intro h
    cases hfront : front? cs with
    | none => rfl
    | some found =>
      obtain ⟨p, rest, rfl, -, hp⟩ := exists_written_of_front? hfront
      exact absurd hp (h p _ (List.prefix_append p rest))

/-- A lexeme does not depend on what stands behind it. -/
theorem front?_of_append {cs rest : List Char} {l : Lexeme} {width : Nat}
    (h : front? (cs ++ rest) = some (l, width)) (hwidth : width ≤ cs.length) :
    front? cs = some (l, width) := by
  have hlongest := front?_eq_some_iff.1 h
  refine front?_eq_some_iff.2 ⟨hwidth, ?_, fun hp hm => ?_⟩
  · rw [← List.take_append_of_le_length hwidth]
    exact hlongest.written
  · exact hlongest.longest (hp.trans (List.prefix_append cs rest)) hm

end Lexeme

end RowAlert
