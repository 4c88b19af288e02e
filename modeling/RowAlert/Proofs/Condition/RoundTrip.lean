import RowAlert.Proofs.Condition.Compiling
import RowAlert.Proofs.Condition.Spelling
import RowAlert.Proofs.Number.Printing
/-!
# RowAlert.Proofs.Condition.RoundTrip

**Compiling undoes printing.**

By induction on a condition, what is found in its normal spelling is the lexemes of a derivation
whose tree is the condition again (`exists_term`). Every `AND` and `OR` is a group in this
derivation, so each subtree is a term and precedence never decides anything. Finite numbers come back
as equal numbers, since what is printed of one reads as that number. An infinity prints as a word:
where it is read as a name, or refused, the condition does not come back.
-/

namespace RowAlert

/-- The words that are no names in a condition, in any letter case. -/
def reservedWords : List String := ["and", "or", "not", "true", "false"]

/-- A name that a condition can hold: a letter or an underscore, then letters, digits, underscores
and points; and no reserved word. -/
def isFieldName (name : String) : Bool :=
  match name.toList with
  | [] => false
  | c :: cs =>
    Lexeme.startsWord c && cs.all Lexeme.continuesWord
      && !reservedWords.contains (String.ofList ((c :: cs).map Char.toLower))

namespace Operand

/-- Fields have names that can be written, and numbers are finite. -/
def WellFormed : Operand → Prop
  | field name => isFieldName name = true
  | literal (.number x) => x.isFinite = true
  | literal (.text _) => True
  | literal (.missing _) => False

instance : (o : Operand) → Decidable o.WellFormed
  | field name => inferInstanceAs (Decidable (isFieldName name = true))
  | literal (.number x) => inferInstanceAs (Decidable (x.isFinite = true))
  | literal (.text _) => inferInstanceAs (Decidable True)
  | literal (.missing _) => inferInstanceAs (Decidable False)

end Operand

namespace Condition

/-- A condition of well-formed operands and the six comparisons. -/
def WellFormed : Condition → Prop
  | operand o => o.WellFormed
  | compare r left right => r ∈ Relation.all ∧ left.WellFormed ∧ right.WellFormed
  | and left right | or left right => left.WellFormed ∧ right.WellFormed
  | not inner => inner.WellFormed
  | unknown _ => False

instance decidableWellFormed : (c : Condition) → Decidable c.WellFormed
  | operand o => inferInstanceAs (Decidable o.WellFormed)
  | compare r left right =>
    inferInstanceAs (Decidable (r ∈ Relation.all ∧ left.WellFormed ∧ right.WellFormed))
  | and left right | or left right =>
    have := decidableWellFormed left
    have := decidableWellFormed right
    inferInstanceAs (Decidable (left.WellFormed ∧ right.WellFormed))
  | not inner => decidableWellFormed inner
  | unknown _ => inferInstanceAs (Decidable False)

end Condition

/-! ### What can be read -/

/-- An operand that a text can write: a name that is a word, a number, or a text. -/
def Operand.Readable : Operand → Prop
  | field name => isFieldName name = true
  | literal (.number x) => x ≠ .nan
  | literal (.text _) => True
  | literal (.missing _) => False

/-- Not an infinite number. -/
def Operand.isFinite : Operand → Bool
  | literal (.number x) => x.isFinite
  | _ => true

theorem Operand.wellFormed_iff (o : Operand) : o.WellFormed ↔ o.Readable ∧ o.isFinite = true := by
  match o with
  | field name => simp [WellFormed, Readable, isFinite]
  | literal (.number .nan) => simp [WellFormed, isFinite, Number.isFinite]
  | literal (.number (.infinite negative)) => simp [WellFormed, isFinite, Number.isFinite]
  | literal (.number (.finite negative m)) => simp [WellFormed, Readable, isFinite]
  | literal (.text s) => simp [WellFormed, Readable, isFinite]
  | literal (.missing name) => simp [WellFormed, Readable]

namespace Condition

/-- A condition that a text can write, as far as its operands go. -/
def Readable : Condition → Prop
  | operand o => o.Readable
  | compare r left right => r ∈ Relation.all ∧ left.Readable ∧ right.Readable
  | and left right | or left right => left.Readable ∧ right.Readable
  | not inner => inner.Readable
  | unknown _ => False

/-- None of the numbers in the condition is infinite. -/
def isFinite : Condition → Bool
  | operand o => o.isFinite
  | compare _ left right => left.isFinite && right.isFinite
  | and left right | or left right => left.isFinite && right.isFinite
  | not inner => inner.isFinite
  | unknown _ => true

/-- The well-formed conditions are those that can be read and have no infinite number. -/
theorem wellFormed_iff (c : Condition) : c.WellFormed ↔ c.Readable ∧ c.isFinite = true := by
  induction c with
  | operand o => exact o.wellFormed_iff
  | compare r left right =>
    simp only [WellFormed, Readable, isFinite, Operand.wellFormed_iff, Bool.and_eq_true]
    tauto
  | and left right ihleft ihright | or left right ihleft ihright =>
    simp only [WellFormed, Readable, isFinite, ihleft, ihright, Bool.and_eq_true]
    tauto
  | not inner ih => exact ih
  | unknown kind => simp [WellFormed, Readable]

/-! ### Operands -/

theorem ofWord_of_not_reserved {cs : List Char}
    (h : String.ofList (cs.map Char.toLower) ∉ reservedWords) :
    Lexeme.ofWord cs = .word (String.ofList cs) ∧
      String.ofList (cs.map Char.toLower) ∉ Value.truthWords := by
  simp only [reservedWords, List.mem_cons, List.not_mem_nil, or_false, not_or] at h
  obtain ⟨hand, hor, hnot, htrue, hfalse⟩ := h
  constructor
  · simp only [Lexeme.ofWord, hand, hor, hnot, if_false]
  · simp only [Value.truthWords, List.mem_cons, List.not_mem_nil, or_false, not_or]
    exact ⟨htrue, hfalse⟩

/-- A field name spells its word, and the word writes the field. -/
theorem exists_atom_of_field {name : String} (h : isFieldName name = true) :
    ∃ a : Atom, a.operand = .field name ∧ Spells name.toList [a.lexeme] := by
  unfold isFieldName at h
  split at h
  · cases h
  · rename_i c cs hname
    simp only [Bool.and_eq_true, Bool.not_eq_true', List.contains_eq_mem, decide_eq_false_iff_not,
      List.all_eq_true] at h
    obtain ⟨⟨hstart, hrest⟩, hreserved⟩ := h
    obtain ⟨hword, htruth⟩ := ofWord_of_not_reserved hreserved
    have hspells := Spells.word hstart hrest
    rw [hword, ← hname, String.ofList_toList] at hspells
    rw [← hname] at htruth
    exact ⟨⟨.word name, .field name, .field htruth⟩, rfl, hspells⟩

/-- The printed text of a finite number spells a numeral, which writes an equal number. -/
theorem exists_atom_of_number {x : Number} (hx : x.isFinite = true) :
    ∃ (a : Atom) (y : Number), a.operand = .literal (.number y) ∧ y.equal x = true ∧
      Spells x.plainText.toList [a.lexeme] := by
  obtain ⟨f, hf, hchars, hvalue⟩ := Number.exists_numeral_of_plainText hx
  have hreads : Number.ofText? (String.ofList f.chars) = some (Number.ofDecimal f.decimal) := by
    rw [Number.ofText?, String.toList_ofList, f.ofChars?_chars hf.ofPlain, hf.plain_eq]
  refine ⟨⟨.number (String.ofList f.chars), _, .number hreads⟩, _, rfl, hvalue, ?_⟩
  rw [← hchars]
  exact Spells.numeral hf

/-- The printed text of an infinity is a name if it is positive, and refused if it is negative. -/
theorem exists_atom_of_infinite (negative : Bool) :
    ∃ a : Option Atom, Cuts (Number.infinite negative).plainText.toList (a.map fun a => [a.lexeme]) ∧
      a.any (·.operand.same (.literal (.number (.infinite negative)))) = false := by
  cases negative with
  | false =>
    have hword : Spells ['i', 'n', 'f'] [.word "inf"] := Spells.word rfl (List.all_eq_true.1 rfl)
    exact ⟨some ⟨.word "inf", .field "inf", .field (by decide)⟩, hword, rfl⟩
  | true =>
    -- A minus sign belongs to a numeral, and there is none behind it.
    exact ⟨none, fun pos rest _ => rfl, rfl⟩

/-- What is read where an operand was printed: the operand again, unless it is infinite. -/
theorem exists_atom {o : Operand} (h : o.Readable) :
    ∃ a : Option Atom, Cuts o.source.toList (a.map fun a => [a.lexeme]) ∧
      a.any (·.operand.same o) = o.isFinite := by
  match o with
  | .field name =>
    obtain ⟨a, ha, hspells⟩ := exists_atom_of_field h
    exact ⟨some a, hspells, by simp [ha, Operand.same, Operand.isFinite]⟩
  | .literal (.number .nan) => exact absurd rfl h
  | .literal (.number (.infinite negative)) => exact exists_atom_of_infinite negative
  | .literal (.number (.finite negative m)) =>
    obtain ⟨a, y, ha, hy, hspells⟩ := exists_atom_of_number (x := .finite negative m) rfl
    exact ⟨some a, hspells, by simp [ha, Operand.same, Value.same, hy, Operand.isFinite, Number.isFinite]⟩
  | .literal (.text s) =>
    refine ⟨some ⟨.text s, .literal (.text s), .text s⟩, ?_, by
      simp [Operand.same, Value.same, Operand.isFinite]⟩
    rw [Operand.source, String.toList_ofList]
    exact Spells.quoted s

/-! ### Conditions -/

/-- What is read where a condition was printed: a term that is the condition again, unless it has an
infinite number. -/
theorem exists_term {c : Condition} (h : c.Readable) :
    ∃ d : Option NotExpr, Cuts c.source.toList (d.map NotExpr.lexemes) ∧
      d.any (·.tree.same c) = c.isFinite := by
  induction c with
  | operand o =>
    obtain ⟨a, hcuts, ha⟩ := exists_atom h
    refine ⟨a.map fun a => .primary (.operand a), ?_, ?_⟩
    · cases a <;> exact hcuts
    · cases a <;> exact ha
  | compare r left right =>
    obtain ⟨hr, hleft, hright⟩ := h
    obtain ⟨a, hcuts, ha⟩ := exists_atom hleft
    obtain ⟨b, hcuts', hb⟩ := exists_atom hright
    have htext := hcuts.spaced ((Spells.relation hr).spaced hcuts')
    refine ⟨a.bind fun a => b.map fun b => .primary (.comparison a r hr b), ?_, ?_⟩
    · cases a <;> cases b <;> simpa [source, NotExpr.lexemes, Primary.lexemes] using htext
    · cases a <;> cases b <;> simp_all [isFinite, NotExpr.tree, Primary.tree, same]
  | and left right ihleft ihright =>
    obtain ⟨d, hcuts, hd⟩ := ihleft h.1
    obtain ⟨e, hcuts', he⟩ := ihright h.2
    have hand : Spells ['A', 'N', 'D'] [.and] := Spells.word rfl (List.all_eq_true.1 rfl)
    -- The text is a group, in which either side is a term of its own.
    have htext := (hcuts.spaced (hand.spaced hcuts')).group
    refine ⟨d.bind fun d => e.map fun e =>
      .primary (.group (.chain (.chain d (.more e .done)) .done)), ?_, ?_⟩
    · cases d <;> cases e <;> simpa [source, NotExpr.lexemes, Primary.lexemes, OrExpr.lexemes,
        OrRest.lexemes, AndExpr.lexemes, AndRest.lexemes] using htext
    · cases d <;> cases e <;> simp_all [isFinite, NotExpr.tree, Primary.tree, OrExpr.tree,
        OrRest.treeFrom, AndExpr.tree, AndRest.treeFrom, same]
  | or left right ihleft ihright =>
    obtain ⟨d, hcuts, hd⟩ := ihleft h.1
    obtain ⟨e, hcuts', he⟩ := ihright h.2
    have hor : Spells ['O', 'R'] [.or] := Spells.word rfl (List.all_eq_true.1 rfl)
    have htext := (hcuts.spaced (hor.spaced hcuts')).group
    refine ⟨d.bind fun d => e.map fun e =>
      .primary (.group (.chain (.chain d .done) (.more (.chain e .done) .done))), ?_, ?_⟩
    · cases d <;> cases e <;> simpa [source, NotExpr.lexemes, Primary.lexemes, OrExpr.lexemes,
        OrRest.lexemes, AndExpr.lexemes, AndRest.lexemes] using htext
    · cases d <;> cases e <;> simp_all [isFinite, NotExpr.tree, Primary.tree, OrExpr.tree,
        OrRest.treeFrom, AndExpr.tree, AndRest.treeFrom, same]
  | not inner ih =>
    obtain ⟨d, hcuts, hd⟩ := ih h
    have hnot : Spells ['N', 'O', 'T'] [.not] := Spells.word rfl (List.all_eq_true.1 rfl)
    have htext := Cuts.spaced hnot hcuts
    refine ⟨d.map .not, ?_, ?_⟩
    · cases d <;> simpa [source, NotExpr.lexemes] using htext
    · cases d <;> exact hd
  | unknown kind => exact absurd h id

/-- The normal spelling of a well-formed condition is a term that is the condition again. -/
theorem spells_source {c : Condition} (h : c.WellFormed) :
    ∃ d : NotExpr, d.tree.same c = true ∧ Spells c.source.toList d.lexemes := by
  obtain ⟨hreadable, hfinite⟩ := (wellFormed_iff c).1 h
  obtain ⟨d, hcuts, hd⟩ := exists_term hreadable
  obtain ⟨d, rfl, hsame⟩ := (Option.any_eq_true _ _).1 (hd.trans hfinite)
  exact ⟨d, hsame, hcuts⟩

/-- A condition that can be read has no node that cannot be printed. -/
theorem print_of_readable {c : Condition} (h : c.Readable) : c.print = .ok c.source := by
  have hknown : c.unknownKind? = none := by
    induction c with
    | operand o => rfl
    | compare r left right => rfl
    | and left right ihleft ihright => rw [unknownKind?, ihleft h.1, ihright h.2]; rfl
    | or left right ihleft ihright => rw [unknownKind?, ihleft h.1, ihright h.2]; rfl
    | not inner ih => exact ih h
    | unknown kind => exact absurd h id
  rw [print, hknown]

theorem print_of_wellFormed {c : Condition} (h : c.WellFormed) : c.print = .ok c.source :=
  print_of_readable ((wellFormed_iff c).1 h).1

/-- Compiling what is printed of a well-formed condition gives the condition again. -/
theorem compile_print {c : Condition} (h : c.WellFormed) :
    ∃ text c', c.print = .ok text ∧ compile text = .ok c' ∧ c'.same c = true := by
  obtain ⟨d, hd, hspells⟩ := spells_source h
  obtain ⟨ts, hts, hscan⟩ := hspells.scan
  refine ⟨c.source, d.tree, print_of_wellFormed h, ?_, hd⟩
  refine compile_of_derivation hscan (.chain (.chain d .done) .done) ?_
  simp [OrExpr.lexemes, OrRest.lexemes, AndExpr.lexemes, AndRest.lexemes, hts]

/-- A negative number, and a text with a quote, a keyword, a backslash and a line feed. -/
theorem compile_print_escaped :
    ∃ c : Condition, c = .not (.and
        (.compare .atLeast (.field "_t.x") (.literal (.number (.ofRatio true 3 2))))
        (.operand (.literal (.text "\" AND \\\n")))) ∧
      ∃ text c', c.print = .ok text ∧ compile text = .ok c' ∧ c'.same c = true :=
  ⟨_, rfl, compile_print (by decide +kernel)⟩

end Condition

end RowAlert
