import RowAlert.Proofs.Condition.Spelling
/-!
# RowAlert.Proofs.Condition.Lookahead

**How far cutting a text looks ahead.**

A lexeme ends with the text, or where a character stands that could not go on with it. Putting more
text behind changes nothing about a lexeme that was found, as long as it begins with a character that
goes on with no lexeme at all (`front?_append`). So a text that was cut into tokens spells their
lexemes (`Spells.of_scan`): it can be put into a longer text and is cut there as it was.
-/

namespace RowAlert

namespace Lexeme

/-- Characters with which some lexeme could go on. -/
def continuesLexeme (c : Char) : Bool :=
  continuesWord c || continuesNumeral c || c = '+' || c = '-' || c = '='

/-- Nothing follows that could go on with a lexeme. -/
abbrev Settled (rest : List Char) : Prop := Text.StopsAt continuesLexeme rest

/-- Another class of characters ends there too, if all of them could go on with a lexeme. -/
theorem stopsAt_of_settled {rest : List Char} (h : Settled rest) {p : Char → Bool}
    (hp : ∀ c, p c = true → continuesLexeme c = true) : Text.StopsAt p rest := by
  intro c hc
  have hnot := h c hc
  cases hpc : p c with
  | false => rfl
  | true => rw [hp c hpc] at hnot; cases hnot

theorem head?_ne_of_settled {rest : List Char} (h : Settled rest) {c : Char}
    (hc : continuesLexeme c = true) : rest.head? ≠ some c := by
  intro hhead
  rw [h c hhead] at hc
  cases hc

theorem takeWhile_append_of_stopsAt {p : Char → Bool} (cs : List Char) {rest : List Char}
    (h : Text.StopsAt p rest) : (cs ++ rest).takeWhile p = cs.takeWhile p := by
  rw [List.takeWhile_append, Text.takeWhile_of_stopsAt h, List.append_nil]
  split
  · rename_i hwhole
    exact ((List.takeWhile_prefix p).eq_of_length hwhole).symm
  · rfl

/-- A width that stays within the text and does not change if something settled follows. -/
structure Measures (width : List Char → Nat) : Prop where
  le (cs : List Char) : width cs ≤ cs.length
  append (cs : List Char) {rest : List Char} (h : Settled rest) : width (cs ++ rest) = width cs

theorem Measures.drop_append {width : List Char → Nat} (h : Measures width) (cs rest : List Char) :
    (cs ++ rest).drop (width cs) = cs.drop (width cs) ++ rest :=
  List.drop_append_of_le_length (h.le cs)

/-! ### Numerals -/

theorem measures_digitsWidth : Measures digitsWidth where
  le cs := by
    rw [digitsWidth]
    exact (List.takeWhile_prefix _).length_le
  append cs rest hrest := by
    have hstops := stopsAt_of_settled hrest fun c (hc : Text.isDigit c = true) => by
      simp [continuesLexeme, continuesNumeral, hc]
    rw [digitsWidth, digitsWidth, takeWhile_append_of_stopsAt cs hstops]

theorem measures_unsignedWidth : Measures unsignedWidth where
  le cs := by
    have hwhole := measures_digitsWidth.le cs
    unfold unsignedWidth
    dsimp only
    split
    · rename_i ds hds
      have hfraction := measures_digitsWidth.le ds
      have hlength := congrArg List.length hds
      rw [List.length_drop, List.length_cons] at hlength
      split <;> omega
    · exact hwhole
  append cs rest hrest := by
    have hpoint : rest.head? ≠ some '.' := head?_ne_of_settled hrest (by decide)
    simp only [unsignedWidth, measures_digitsWidth.append cs hrest, measures_digitsWidth.drop_append]
    cases hbehind : cs.drop (digitsWidth cs) with
    | nil =>
      rw [List.nil_append]
      split
      · exact absurd rfl hpoint
      · rfl
    | cons c ds =>
      rw [List.cons_append]
      by_cases hc : c = '.'
      · subst hc
        simp only [measures_digitsWidth.append ds hrest]
      · split
        · rename_i heq
          exact absurd (List.cons.inj heq).1 hc
        · split
          · rename_i heq
            exact absurd (List.cons.inj heq).1 hc
          · rfl

/-- The width of the sign of an exponent. -/
def signWidth : List Char → Nat
  | '+' :: _ | '-' :: _ => 1
  | _ => 0

theorem signWidth_of_unsigned {cs : List Char} (h : Unsigned cs) : signWidth cs = 0 := by
  unfold signWidth
  split
  · exact absurd rfl h.1
  · exact absurd rfl h.2
  · rfl

theorem exponentWidth_cons (c : Char) (cs : List Char) :
    exponentWidth (c :: cs) =
      if c = 'e' || c = 'E' then
        if digitsWidth (cs.drop (signWidth cs)) = 0 then 0
        else 1 + signWidth cs + digitsWidth (cs.drop (signWidth cs))
      else 0 := rfl

theorem measures_signWidth : Measures signWidth where
  le cs := by
    unfold signWidth
    split <;> simp
  append cs rest hrest := by
    cases cs with
    | nil =>
      have hplus : rest.head? ≠ some '+' := head?_ne_of_settled hrest (by decide)
      have hminus : rest.head? ≠ some '-' := head?_ne_of_settled hrest (by decide)
      exact signWidth_of_unsigned ⟨hplus, hminus⟩
    | cons c cs =>
      rw [List.cons_append]
      unfold signWidth
      split <;> simp_all

theorem measures_exponentWidth : Measures exponentWidth where
  le cs := by
    cases cs with
    | nil => exact Nat.le_refl 0
    | cons c cs =>
      have hdigits := measures_digitsWidth.le (cs.drop (signWidth cs))
      rw [List.length_drop] at hdigits
      rw [exponentWidth_cons, List.length_cons]
      split
      · split <;> omega
      · exact Nat.zero_le _
  append cs rest hrest := by
    cases cs with
    | nil =>
      refine exponentWidth_of_stopsAt (stopsAt_of_settled hrest fun c hc => ?_)
      simp [continuesLexeme, hc]
    | cons c cs =>
      simp only [List.cons_append, exponentWidth_cons, measures_signWidth.append cs hrest,
        measures_signWidth.drop_append, measures_digitsWidth.append _ hrest]

/-- The width of the sign of a numeral. -/
def minusWidth (cs : List Char) : Nat := if cs.head? = some '-' then 1 else 0

theorem measures_minusWidth : Measures minusWidth where
  le cs := by
    cases cs with
    | nil => exact Nat.le_refl 0
    | cons c cs =>
      unfold minusWidth
      split <;> simp
  append cs rest hrest := by
    cases cs with
    | nil =>
      have hminus : rest.head? ≠ some '-' := head?_ne_of_settled hrest (by decide)
      exact if_neg hminus
    | cons c cs => rfl

/-- The width of the digits of a numeral and of its sign. -/
theorem minusWidth_add_le (cs : List Char) :
    minusWidth cs + unsignedWidth (cs.drop (minusWidth cs)) ≤ cs.length := by
  have hminus := measures_minusWidth.le cs
  have hunsigned := measures_unsignedWidth.le (cs.drop (minusWidth cs))
  rw [List.length_drop] at hunsigned
  omega

theorem numberWidth_eq (cs : List Char) :
    numberWidth cs =
      if unsignedWidth (cs.drop (minusWidth cs)) = 0 then 0
      else minusWidth cs + unsignedWidth (cs.drop (minusWidth cs)) +
        exponentWidth (cs.drop (minusWidth cs + unsignedWidth (cs.drop (minusWidth cs)))) := rfl

theorem measures_numberWidth : Measures numberWidth where
  le cs := by
    have hdigits := minusWidth_add_le cs
    have hexponent := measures_exponentWidth.le
      (cs.drop (minusWidth cs + unsignedWidth (cs.drop (minusWidth cs))))
    rw [List.length_drop] at hexponent
    rw [numberWidth_eq]
    split <;> omega
  append cs rest hrest := by
    simp only [numberWidth_eq, measures_minusWidth.append cs hrest, measures_minusWidth.drop_append,
      measures_unsignedWidth.append _ hrest, List.drop_append_of_le_length (minusWidth_add_le cs),
      measures_exponentWidth.append _ hrest]

/-! ### Quoted texts and operators -/

theorem quotedBody?_of_ne {quote c : Char} (hc : c ≠ '\\') (cs : List Char) :
    quotedBody? quote (c :: cs) =
      if c = quote then some ([], 1)
      else (quotedBody? quote cs).map fun (body, width) => (c :: body, width + 1) := by
  rw [quotedBody?.eq_3 quote c cs fun _ _ h => absurd h hc, if_neg hc]

theorem quotedBody?_append {quote : Char} (hquote : quote ≠ '\\') {cs body : List Char} {width : Nat}
    (h : quotedBody? quote cs = some (body, width)) (rest : List Char) :
    quotedBody? quote (cs ++ rest) = some (body, width) ∧ width ≤ cs.length := by
  induction cs using quotedBody?.induct quote generalizing body width with
  | case1 => cases h
  | case2 cs => cases h
  | case3 c cs hfeed ih =>
    rw [quotedBody?, if_neg hfeed] at h
    obtain ⟨⟨inner, n⟩, hinner, heq⟩ := Option.map_eq_some_iff.1 h
    obtain ⟨rfl, rfl⟩ := Prod.mk.inj heq
    obtain ⟨happend, hle⟩ := ih hinner
    refine ⟨?_, Nat.add_le_add_right hle 2⟩
    rw [List.cons_append, List.cons_append, quotedBody?, if_neg hfeed, happend]
    rfl
  | case4 cs _ =>
    rw [quotedBody?_of_ne hquote, if_pos rfl] at h
    obtain ⟨rfl, rfl⟩ := Prod.mk.inj (Option.some.inj h)
    refine ⟨?_, Nat.le_add_left 1 cs.length⟩
    rw [List.cons_append, quotedBody?_of_ne hquote, if_pos rfl]
  | case5 cs hcs _ =>
    -- A backslash at the end takes no character.
    cases cs with
    | nil =>
      rw [quotedBody?.eq_3 quote '\\' [] hcs, if_neg (Ne.symm hquote), if_pos rfl] at h
      cases h
    | cons c cs => exact absurd rfl (hcs c cs rfl)
  | case6 c cs _ hc hbackslash ih =>
    rw [quotedBody?_of_ne hbackslash, if_neg hc] at h
    obtain ⟨⟨inner, n⟩, hinner, heq⟩ := Option.map_eq_some_iff.1 h
    obtain ⟨rfl, rfl⟩ := Prod.mk.inj heq
    obtain ⟨happend, hle⟩ := ih hinner
    refine ⟨?_, Nat.add_le_add_right hle 1⟩
    rw [List.cons_append, quotedBody?_of_ne hbackslash, if_neg hc, happend]
    rfl

theorem operator?_append {c : Char} {cs rest : List Char} {l : Lexeme} {width : Nat}
    (h : operator? (c :: cs) = some (l, width)) (hrest : Settled rest) :
    operator? (c :: (cs ++ rest)) = some (l, width) ∧ width ≤ cs.length + 1 := by
  have hequals : ∀ tail, (∀ ds, cs ≠ '=' :: ds) → cs ++ rest ≠ '=' :: tail := by
    intro tail hcs heq
    cases cs with
    | nil => exact head?_ne_of_settled hrest (by decide) (congrArg List.head? heq)
    | cons d ds => exact hcs ds (by rw [(List.cons.inj heq).1])
  have hone : 1 ≤ cs.length + 1 := Nat.le_add_left 1 cs.length
  unfold operator? at h
  split at h
  case h_12 => cases h
  all_goals
    rename_i heq
    obtain ⟨rfl, hcs⟩ := List.cons.inj heq
    obtain ⟨rfl, rfl⟩ := Prod.mk.inj (Option.some.inj h)
  case h_7 hnext =>
    subst hcs
    exact ⟨operator?.eq_7 _ fun tail => hequals tail hnext, hone⟩
  case h_8 hnext =>
    subst hcs
    exact ⟨operator?.eq_8 _ fun tail => hequals tail hnext, hone⟩
  case h_9 hnext =>
    subst hcs
    exact ⟨operator?.eq_9 _ fun tail => hequals tail hnext, hone⟩
  case h_10 => exact ⟨rfl, hone⟩
  case h_11 => exact ⟨rfl, hone⟩
  -- The operators of two characters do not depend on what follows.
  all_goals
    subst hcs
    exact ⟨rfl, Nat.le_add_left 2 _⟩

/-! ### Lexemes -/

theorem front?_append {c : Char} {cs rest : List Char} {l : Lexeme} {width : Nat}
    (h : front? (c :: cs) = some (l, width)) (hrest : Settled rest) :
    front? (c :: (cs ++ rest)) = some (l, width) ∧ width ≤ cs.length + 1 := by
  have hnumber : numberWidth (c :: (cs ++ rest)) = numberWidth (c :: cs) :=
    measures_numberWidth.append (c :: cs) hrest
  have hnumberLe : numberWidth (c :: cs) ≤ cs.length + 1 := measures_numberWidth.le (c :: cs)
  have hword : (c :: (cs ++ rest)).takeWhile continuesWord = (c :: cs).takeWhile continuesWord :=
    takeWhile_append_of_stopsAt (c :: cs)
      (stopsAt_of_settled hrest fun d hd => by simp [continuesLexeme, hd])
  simp only [front?] at h ⊢
  rw [hnumber, hword]
  split at h
  · -- A numeral.
    rename_i hwidth
    obtain ⟨rfl, rfl⟩ := Prod.mk.inj (Option.some.inj h)
    rw [if_pos hwidth, ← List.cons_append, List.take_append_of_le_length hnumberLe]
    exact ⟨rfl, hnumberLe⟩
  rename_i hnumeral
  rw [if_neg hnumeral]
  split at h
  · -- A quoted text.
    rename_i hquote
    obtain ⟨⟨body, n⟩, hbody, heq⟩ := Option.map_eq_some_iff.1 h
    obtain ⟨rfl, rfl⟩ := Prod.mk.inj heq
    have hne : c ≠ '\\' := by
      intro hc
      subst hc
      exact absurd hquote (by decide)
    obtain ⟨happend, hle⟩ := quotedBody?_append hne hbody rest
    rw [if_pos hquote, happend]
    exact ⟨rfl, Nat.add_le_add_right hle 1⟩
  rename_i hquote
  rw [if_neg hquote]
  split at h
  · -- A word.
    rename_i hstarts
    obtain ⟨rfl, rfl⟩ := Prod.mk.inj (Option.some.inj h)
    rw [if_pos hstarts]
    exact ⟨rfl, (List.takeWhile_prefix continuesWord).length_le⟩
  · rename_i hstarts
    rw [if_neg hstarts]
    exact operator?_append h hrest

end Lexeme

namespace Spells

/-- The lexemes of a text are found again if something settled follows, and what follows is cut as
if it stood alone. -/
theorem scanFrom_append {rest : List Char} (hrest : Lexeme.Settled rest) {cs : List Char}
    {skip pos : Nat} {ts : List Token} (hskip : skip ≤ cs.length)
    (h : Token.scanFrom skip pos cs = .ok ts) (moved : Nat) :
    (Token.scanFrom skip moved (cs ++ rest)).toOption.map (List.map Token.lexeme) =
      (Token.lexemesFrom? (moved + cs.length) rest).map (ts.map Token.lexeme ++ ·) := by
  -- By induction on the text; `skip` characters of it belong to a lexeme that has been taken.
  induction cs generalizing skip pos ts moved with
  | nil =>
    obtain rfl := Nat.le_zero.1 hskip
    obtain rfl : [] = ts := Except.ok.inj h
    exact Option.map_id'.symm
  | cons c cs ih =>
    have hmoved : moved + (c :: cs).length = moved + 1 + cs.length := by
      rw [List.length_cons, Nat.add_assoc, Nat.add_comm 1]
    rw [List.cons_append, hmoved]
    cases skip with
    | succ skip => exact ih (Nat.le_of_succ_le_succ hskip) h (moved + 1)
    | zero =>
      by_cases hblank : Text.isBlank c = true
      · rw [Token.scanFrom_blank hblank] at h ⊢
        exact ih (Nat.zero_le _) h (moved + 1)
      · have hvisible := Bool.eq_false_iff.2 hblank
        obtain ⟨l, width, us, hfront, hus, rfl⟩ := Token.scanFrom_lexeme_ok hvisible h
        obtain ⟨happend, hwidth⟩ := Lexeme.front?_append hfront hrest
        have htail := ih (Nat.sub_le_of_le_add hwidth) hus (moved + 1)
        calc ((Token.scanFrom 0 moved (c :: (cs ++ rest))).toOption.map (List.map Token.lexeme))
          _ = ((Token.scanFrom (width - 1) (moved + 1) (cs ++ rest)).toOption.map
                (List.map Token.lexeme)).map (l :: ·) := by
            rw [Token.scanFrom_lexeme hvisible happend]
            cases Token.scanFrom (width - 1) (moved + 1) (cs ++ rest) <;> rfl
          _ = (Token.lexemesFrom? (moved + 1 + cs.length) rest).map
                (l :: us.map Token.lexeme ++ ·) := by
            rw [htail, Option.map_map]
            rfl

/-- A text that was cut into tokens spells their lexemes. -/
theorem of_scan {cs : List Char} {ts : List Token} (h : Token.scan cs = .ok ts) :
    Spells cs (ts.map Token.lexeme) := by
  intro pos rest hrest
  have hsettled : Lexeme.Settled rest := hrest.stopsAt (by decide) (by decide)
  exact scanFrom_append hsettled (Nat.zero_le _) h pos

end Spells

end RowAlert
