import Mathlib.Data.List.Basic
import RowAlert.Text.Blank
import RowAlert.Text.Lines
import RowAlert.Text.Split
/-!
# RowAlert.Proofs.Lines

**Lines and their parts** come back from the text that joins them.

A line feed ends a line whatever stands before it (`lines_append_feed`), so the lines of a text are
found one by one. Line boundaries of other kinds only occur in blank lines here; they cut these into
blank lines again, which makes no difference to the lines that are not blank.
-/

namespace RowAlert.Text

/-! ### Parts of a line -/

/-- To split at one character is to split a list there. -/
theorem splitOn_singleton (d : Char) (cs : List Char) : splitOn [d] cs = cs.splitOn d := by
  rw [splitOn]
  induction cs with
  | nil => rfl
  | cons c cs ih =>
    rw [List.splitOn_eq_splitOnP, List.splitOnP_cons_eq_if_modifyHead, ← List.splitOn_eq_splitOnP,
      ← ih, splitFrom]
    by_cases h : c = d
    · simp [dropFront?, h]
    · have hne : d ≠ c := fun heq => h heq.symm
      obtain ⟨part, parts, hparts⟩ := List.exists_cons_of_ne_nil (splitFrom_ne_nil [d] 0 cs)
      simp [dropFront?, h, hne, hparts]

/-! ### Lines -/

theorem lines_crlf (cs : List Char) : lines ('\r' :: '\n' :: cs) = [] :: lines cs := by rw [lines]

/-- Any other line boundary is a single character. -/
theorem lines_cons_of_isLineEnd {c : Char} {cs : List Char} (h : isLineEnd c = true)
    (hcrlf : c = '\r' → cs.head? ≠ some '\n') : lines (c :: cs) = [] :: lines cs := by
  rw [lines.eq_def]
  split
  · rename_i heq
    cases heq
  · rename_i heq
    obtain ⟨rfl, rfl⟩ := List.cons.inj heq
    exact absurd rfl (hcrlf rfl)
  · rename_i heq
    obtain ⟨rfl, rfl⟩ := List.cons.inj heq
    rw [h, if_pos rfl]

/-- Any other character goes on with a line. -/
theorem lines_cons_of_inline {c : Char} (h : isLineEnd c = false) (cs : List Char) :
    lines (c :: cs) = consLine c (lines cs) := by
  rw [lines.eq_def]
  split
  · rename_i heq
    cases heq
  · rename_i heq
    obtain ⟨rfl, -⟩ := List.cons.inj heq
    cases h
  · rename_i heq
    obtain ⟨rfl, rfl⟩ := List.cons.inj heq
    rw [h]
    rfl

theorem lines_feed (cs : List Char) : lines ('\n' :: cs) = [] :: lines cs :=
  lines_cons_of_isLineEnd rfl fun h => absurd h (by decide)

/-- Every text is put together from the front: by CR LF, by another line boundary, or by a character of
a line. -/
theorem lines_induction {motive : List Char → Prop} (nil : motive [])
    (crlf : ∀ cs, motive cs → motive ('\r' :: '\n' :: cs))
    (ended : ∀ c cs, isLineEnd c = true → (c = '\r' → cs.head? ≠ some '\n') → motive cs →
      motive (c :: cs))
    (inline : ∀ c cs, isLineEnd c = false → motive cs → motive (c :: cs)) (cs : List Char) :
    motive cs := by
  induction cs using lines.induct with
  | case1 => exact nil
  | case2 cs ih => exact crlf cs ih
  | case3 c cs hcrlf hc ih =>
    refine ended c cs hc ?_ ih
    intro hreturn hhead
    obtain ⟨tail, htail⟩ := List.head?_eq_some_iff.1 hhead
    exact hcrlf tail hreturn htail
  | case4 c cs hcrlf hc ih => exact inline c cs (Bool.eq_false_iff.2 hc) ih

theorem lines_ne_nil (c : Char) (cs : List Char) : lines (c :: cs) ≠ [] := by
  rw [lines.eq_def]
  split
  · rename_i heq
    cases heq
  · exact List.cons_ne_nil _ _
  · split
    · exact List.cons_ne_nil _ _
    · exact consLine_ne_nil _ _

theorem consLine_append (c : Char) {ls : List (List Char)} (h : ls ≠ []) (ms : List (List Char)) :
    consLine c (ls ++ ms) = consLine c ls ++ ms := by
  obtain ⟨l, ls, rfl⟩ := List.exists_cons_of_ne_nil h
  rfl

/-- Behind a line feed the lines are those of the rest. -/
theorem lines_append_feed (cs rest : List Char) :
    lines (cs ++ '\n' :: rest) = lines (cs ++ ['\n']) ++ lines rest := by
  induction cs using lines_induction with
  | nil => simp [lines_feed]
  | crlf cs ih => simp [lines_crlf, ih]
  | ended c cs hc hsingle ih =>
    cases cs with
    | nil =>
      -- A carriage return at the end of the text is taken together with the line feed.
      by_cases hreturn : c = '\r'
      · simp [hreturn, lines_crlf]
      · have hother : ∀ {ds : List Char}, c = '\r' → ds.head? ≠ some '\n' :=
          fun heq => absurd heq hreturn
        simp [lines_cons_of_isLineEnd hc hother, lines_feed]
    | cons d cs =>
      have hother : ∀ {ds : List Char}, c = '\r' → (d :: ds).head? ≠ some '\n' := hsingle
      simp only [List.cons_append] at ih ⊢
      rw [lines_cons_of_isLineEnd hc hother, lines_cons_of_isLineEnd hc hother, ih, List.cons_append]
  | inline c cs hc ih =>
    have hne : lines (cs ++ ['\n']) ≠ [] := by
      cases cs <;> exact lines_ne_nil _ _
    rw [List.cons_append, List.cons_append, lines_cons_of_inline hc, lines_cons_of_inline hc, ih,
      consLine_append c hne]

theorem mem_consLine {c : Char} {ls : List (List Char)} {line : List Char}
    (h : line ∈ consLine c ls) : (∃ rest, line = c :: rest ∧ (rest = [] ∨ rest ∈ ls)) ∨ line ∈ ls := by
  cases ls with
  | nil => exact .inl ⟨[], List.mem_singleton.1 h, .inl rfl⟩
  | cons l ls =>
    rcases List.mem_cons.1 h with rfl | hmem
    · exact .inl ⟨l, rfl, .inr List.mem_cons_self⟩
    · exact .inr (List.mem_cons_of_mem l hmem)

/-- A line is made of characters of its text. -/
theorem mem_of_mem_lines {cs line : List Char} (hline : line ∈ lines cs) {c : Char} (hc : c ∈ line) :
    c ∈ cs := by
  induction cs using lines_induction generalizing line with
  | nil => simp at hline
  | crlf cs ih =>
    rw [lines_crlf] at hline
    rcases List.mem_cons.1 hline with rfl | hmem
    · cases hc
    · exact List.mem_cons_of_mem _ (List.mem_cons_of_mem _ (ih hmem hc))
  | ended d cs hd hsingle ih =>
    rw [lines_cons_of_isLineEnd hd hsingle] at hline
    rcases List.mem_cons.1 hline with rfl | hmem
    · cases hc
    · exact List.mem_cons_of_mem _ (ih hmem hc)
  | inline d cs hd ih =>
    rw [lines_cons_of_inline hd] at hline
    rcases mem_consLine hline with ⟨rest, rfl, hrest⟩ | hmem
    · rcases List.mem_cons.1 hc with rfl | hc
      · exact List.mem_cons_self
      · rcases hrest with rfl | hmem
        · cases hc
        · exact List.mem_cons_of_mem _ (ih hmem hc)
    · exact List.mem_cons_of_mem _ (ih hmem hc)

/-! ### Lines that are joined -/

/-- No line boundary in the text. -/
def Inline (cs : List Char) : Prop := ∀ c ∈ cs, isLineEnd c = false

theorem mem_intercalate {d c : Char} {parts : List (List Char)} (h : c ∈ [d].intercalate parts) :
    c = d ∨ ∃ part ∈ parts, c ∈ part := by
  induction parts with
  | nil => cases h
  | cons part parts ih =>
    cases parts with
    | nil => exact .inr ⟨part, List.mem_cons_self, by simpa using h⟩
    | cons next parts =>
      rw [List.intercalate_cons_cons, List.append_assoc, List.mem_append, List.singleton_append,
        List.mem_cons] at h
      rcases h with hpart | hd | hrest
      · exact .inr ⟨part, List.mem_cons_self, hpart⟩
      · exact .inl hd
      · obtain hd | ⟨later, hlater, hc⟩ := ih hrest
        · exact .inl hd
        · exact .inr ⟨later, List.mem_cons_of_mem _ hlater, hc⟩

theorem lines_of_inline {line : List Char} (h : Inline line) (hne : line ≠ []) :
    lines line = [line] := by
  induction line with
  | nil => exact absurd rfl hne
  | cons c cs ih =>
    rw [lines_cons_of_inline (h c List.mem_cons_self)]
    cases cs with
    | nil => simp [consLine]
    | cons d cs =>
      rw [ih (fun c hc => h c (List.mem_cons_of_mem _ hc)) (List.cons_ne_nil d cs)]
      rfl

theorem lines_inline_feed {line : List Char} (h : Inline line) : lines (line ++ ['\n']) = [line] := by
  induction line with
  | nil => simp [lines_feed]
  | cons c cs ih =>
    rw [List.cons_append, lines_cons_of_inline (h c List.mem_cons_self),
      ih fun c hc => h c (List.mem_cons_of_mem _ hc)]
    rfl

/-- The lines of a text that are not blank. -/
def visibleLines (cs : List Char) : List (List Char) :=
  (lines cs).filter fun line => !allBlank line

theorem visibleLines_of_allBlank {cs : List Char} (h : allBlank cs = true) : visibleLines cs = [] := by
  rw [visibleLines, List.filter_eq_nil_iff]
  intro line hline
  have hblank : allBlank line = true :=
    List.all_eq_true.2 fun c hc => List.all_eq_true.1 h c (mem_of_mem_lines hline hc)
  simp [hblank]

theorem visibleLines_append_feed (cs rest : List Char) :
    visibleLines (cs ++ '\n' :: rest) = visibleLines (cs ++ ['\n']) ++ visibleLines rest := by
  rw [visibleLines, lines_append_feed, List.filter_append]
  rfl

theorem allBlank_of_ending {ending : List Char} (h : ending = [] ∨ ending = ['\n']) :
    allBlank ending = true := by
  rcases h with rfl | rfl <;> decide

/-- A line that is not blank is its only visible line, with or without a line feed. -/
theorem visibleLines_of_visible {line ending : List Char} (hline : Inline line)
    (hvisible : allBlank line = false) (hending : ending = [] ∨ ending = ['\n']) :
    visibleLines (line ++ ending) = [line] := by
  have hne : line ≠ [] := by
    rintro rfl
    cases hvisible
  rcases hending with rfl | rfl
  · rw [List.append_nil, visibleLines, lines_of_inline hline hne]
    simp [hvisible]
  · rw [visibleLines, lines_inline_feed hline]
    simp [hvisible]

end RowAlert.Text
