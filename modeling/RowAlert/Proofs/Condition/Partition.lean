import RowAlert.Proofs.Condition.Lexemes
import RowAlert.Proofs.Condition.Refusal
import RowAlert.Proofs.Except
/-!
# RowAlert.Proofs.Condition.Partition

**Tokens partition a text.**

The spans of the tokens follow one another and leave nothing but blanks between them, and each token is
the longest lexeme that is written at its place (`Partition`). There is at most one such partition of a
text (`Partition.unique`). Scanning finds it, and where there is none, it stops at the first place that
is neither blank nor the beginning of a lexeme, with the partition of all that stands in front of it
(`scan_partitions`).
-/

namespace RowAlert

namespace Token

/-! ### Partitions -/

/-- The tokens partition a text from one place to another. -/
structure Partition (cs : List Char) (first last : Nat) (ts : List Token) : Prop where
  first_le : ∀ t ∈ ts, first ≤ t.start
  start_lt : ∀ t ∈ ts, t.start < t.stop
  le_last : ∀ t ∈ ts, t.stop ≤ last
  /-- No span begins before the ones in front of it end. -/
  ordered : ts.Pairwise fun t u => t.stop ≤ u.start
  /-- What is in no span is blank. -/
  blank : ∀ i c, first ≤ i → i < last → cs[i]? = some c →
    (∀ t ∈ ts, ¬(t.start ≤ i ∧ i < t.stop)) → Text.isBlank c = true
  /-- Every token is what its span writes, and nothing longer is written there. -/
  longest : ∀ t ∈ ts, Lexeme.Longest (cs.drop t.start) t.lexeme (t.stop - t.start)

namespace Partition

variable {cs : List Char} {first last : Nat} {ts us : List Token}

theorem nil (cs : List Char) (n : Nat) : Partition cs n n [] where
  first_le := by simp
  start_lt := by simp
  le_last := by simp
  ordered := .nil
  blank := by omega
  longest := by simp

/-- A blank belongs to no token. -/
theorem behind_blank {c : Char} (hc : cs[first]? = some c) (hblank : Text.isBlank c = true)
    (h : Partition cs (first + 1) last ts) : Partition cs first last ts where
  first_le := fun t ht => Nat.le_of_succ_le (h.first_le t ht)
  start_lt := h.start_lt
  le_last := h.le_last
  ordered := h.ordered
  blank := by
    intro i d hfirst hlast hd hout
    rcases Nat.eq_or_lt_of_le hfirst with rfl | hlater
    · rw [hc] at hd
      rwa [← Option.some.inj hd]
    · exact h.blank i d hlater hlast hd hout
  longest := h.longest

theorem cons {l : Lexeme} {width : Nat} (hl : Lexeme.Longest (cs.drop first) l width)
    (hpos : 0 < width) (hle : first + width ≤ last) (h : Partition cs (first + width) last ts) :
    Partition cs first last (⟨l, first, first + width⟩ :: ts) where
  first_le := by
    intro t ht
    rcases List.mem_cons.1 ht with rfl | ht
    · exact Nat.le_refl first
    · exact Nat.le_trans (Nat.le_add_right first width) (h.first_le t ht)
  start_lt := by
    intro t ht
    rcases List.mem_cons.1 ht with rfl | ht
    · exact Nat.lt_add_of_pos_right hpos
    · exact h.start_lt t ht
  le_last := by
    intro t ht
    rcases List.mem_cons.1 ht with rfl | ht
    · exact hle
    · exact h.le_last t ht
  ordered := List.pairwise_cons.2 ⟨h.first_le, h.ordered⟩
  blank := by
    intro i c hfirst hlast hc hout
    obtain ⟨hspan, hrest⟩ := List.forall_mem_cons.1 hout
    have hlater : first + width ≤ i := by
      by_contra hlt
      exact hspan ⟨hfirst, Nat.lt_of_not_le hlt⟩
    exact h.blank i c hlater hlast hc hrest
  longest := by
    intro t ht
    rcases List.mem_cons.1 ht with rfl | ht
    · simpa using hl
    · exact h.longest t ht

/-- Behind the first token the others partition the rest. -/
theorem tail {t : Token} (h : Partition cs first last (t :: ts)) : Partition cs t.stop last ts where
  first_le := (List.pairwise_cons.1 h.ordered).1
  start_lt := fun u hu => h.start_lt u (List.mem_cons_of_mem t hu)
  le_last := fun u hu => h.le_last u (List.mem_cons_of_mem t hu)
  ordered := (List.pairwise_cons.1 h.ordered).2
  blank := by
    intro i c hstop hlast hc hout
    have hfirst := h.first_le t List.mem_cons_self
    have hlt := h.start_lt t List.mem_cons_self
    refine h.blank i c (by omega) hlast hc (List.forall_mem_cons.2 ⟨?_, hout⟩)
    exact fun hspan => Nat.not_le_of_lt hspan.2 hstop
  longest := fun u hu => h.longest u (List.mem_cons_of_mem t hu)

/-- A token stands where a character is not blank. -/
theorem visible (h : Partition cs first last ts) {t : Token} (ht : t ∈ ts) :
    ∃ c, cs[t.start]? = some c ∧ Text.isBlank c = false := by
  have hlongest := h.longest t ht
  obtain ⟨c, ds, hcs, hc⟩ := hlongest.written.exists_cons
  refine ⟨c, ?_, hc⟩
  have hhead : ((cs.drop t.start).take (t.stop - t.start)).head? = some c := by rw [hcs]; rfl
  rw [List.head?_take, if_neg (Nat.sub_ne_zero_of_lt (h.start_lt t ht)), List.head?_drop] at hhead
  exact hhead

/-- What another partition has a token at, is in some span of this one. -/
theorem covers (h : Partition cs first last ts) (hus : Partition cs first last us) {u : Token}
    (hu : u ∈ us) : ∃ t ∈ ts, t.start ≤ u.start ∧ u.start < t.stop := by
  obtain ⟨c, hc, hvisible⟩ := hus.visible hu
  have hlt := hus.start_lt u hu
  have hle := hus.le_last u hu
  by_contra hnone
  have hblank := h.blank u.start c (hus.first_le u hu) (by omega) hc fun t ht hspan =>
    hnone ⟨t, ht, hspan⟩
  rw [hvisible] at hblank
  cases hblank

/-- The first token begins where that of another partition does, or before. -/
theorem start_le {t u : Token} (h : Partition cs first last (t :: ts))
    (hus : Partition cs first last (u :: us)) : t.start ≤ u.start := by
  obtain ⟨v, hv, hle, -⟩ := h.covers hus List.mem_cons_self
  rcases List.mem_cons.1 hv with rfl | hv
  · exact hle
  · have hstop := (List.pairwise_cons.1 h.ordered).1 v hv
    have hlt := h.start_lt t List.mem_cons_self
    omega

/-- A text has at most one partition. -/
theorem unique (h : Partition cs first last ts) (hus : Partition cs first last us) : ts = us := by
  induction ts generalizing first us with
  | nil =>
    cases us with
    | nil => rfl
    | cons u us =>
      obtain ⟨t, ht, -⟩ := h.covers hus List.mem_cons_self
      cases ht
  | cons t ts ih =>
    cases us with
    | nil =>
      obtain ⟨u, hu, -⟩ := hus.covers h List.mem_cons_self
      cases hu
    | cons u us =>
      have hstart := Nat.le_antisymm (h.start_le hus) (hus.start_le h)
      have ht := Lexeme.front?_eq_some_iff.2 (h.longest t List.mem_cons_self)
      have hu := Lexeme.front?_eq_some_iff.2 (hus.longest u List.mem_cons_self)
      rw [hstart, hu] at ht
      obtain ⟨hlexeme, hwidth⟩ := Prod.mk.inj (Option.some.inj ht)
      have htlt := h.start_lt t List.mem_cons_self
      have hult := hus.start_lt u List.mem_cons_self
      have hstop : t.stop = u.stop := by omega
      have hsame : t = u := by
        obtain ⟨l, start, stop⟩ := t
        obtain ⟨m, start', stop'⟩ := u
        rw [Token.mk.injEq]
        exact ⟨hlexeme.symm, hstart, hstop⟩
      have htail := hus.tail
      rw [← hstop] at htail
      rw [hsame, ih h.tail htail]

end Partition

/-! ### Scanning -/

theorem scanFrom_longest {p rest : List Char} {l : Lexeme}
    (h : Lexeme.Longest (p ++ rest) l p.length) (pos : Nat) :
    scanFrom 0 pos (p ++ rest) =
      (scanFrom 0 (pos + p.length) rest).map (⟨l, pos, pos + p.length⟩ :: ·) := by
  have hp := h.written
  rw [List.take_left] at hp
  obtain ⟨c, cs, rfl, hc⟩ := hp.exists_cons
  have hfront := Lexeme.front?_eq_some_iff.2 h
  have hpass := Spells.scanFrom_pass cs (pos + 1) rest
  rw [List.cons_append] at hfront ⊢
  rw [scanFrom_lexeme hc hfront, List.length_cons, Nat.add_sub_cancel, hpass, Nat.add_assoc,
    Nat.add_comm 1]

theorem scanFrom_refused {c : Char} {cs : List Char} (hblank : Text.isBlank c = false)
    (h : Lexeme.front? (c :: cs) = none) (pos : Nat) :
    scanFrom 0 pos (c :: cs) = .error (complaintAt c, pos) := by
  simp only [scanFrom, hblank, Bool.false_eq_true, if_false, h]

/-- What holds of the empty text, and of a text if it holds of the text behind its first blank or its
first lexeme, holds of every text that is not refused at its front. -/
theorem scan_induction {P : List Char → Prop} (nil : P [])
    (blank : ∀ c cs, Text.isBlank c = true → P cs → P (c :: cs))
    (refused : ∀ c cs, Text.isBlank c = false → Lexeme.front? (c :: cs) = none → P (c :: cs))
    (lexeme : ∀ p rest l, p ≠ [] → Lexeme.Longest (p ++ rest) l p.length → P rest → P (p ++ rest))
    (cs : List Char) : P cs := by
  suffices h : ∀ n cs, cs.length ≤ n → P cs from h cs.length cs (Nat.le_refl _)
  intro n
  induction n with
  | zero =>
    intro cs hcs
    rw [List.length_eq_zero_iff.1 (Nat.le_zero.1 hcs)]
    exact nil
  | succ n ih =>
    intro cs hcs
    cases cs with
    | nil => exact nil
    | cons c cs =>
      cases hblank : Text.isBlank c with
      | true => exact blank c cs hblank (ih cs (Nat.le_of_succ_le_succ hcs))
      | false =>
        cases hfront : Lexeme.front? (c :: cs) with
        | none => exact refused c cs hblank hfront
        | some found =>
          obtain ⟨p, rest, heq, hlength, hp⟩ := Lexeme.exists_written_of_front? hfront
          obtain ⟨d, ds, rfl, -⟩ := hp.exists_cons
          have hlongest := Lexeme.front?_eq_some_iff.1 hfront
          rw [heq, ← hlength] at hlongest
          rw [heq] at hcs ⊢
          rw [List.length_append, List.length_cons] at hcs
          exact lexeme _ rest _ (List.cons_ne_nil d ds) hlongest (ih rest (by omega))

theorem drop_of_append {whole front behind : List Char} {pos : Nat}
    (h : whole.drop pos = front ++ behind) : whole.drop (pos + front.length) = behind := by
  rw [← List.drop_drop, h, List.drop_left]

/-- The tokens that are found in a text partition it. -/
theorem partition_of_scanFrom {whole cs : List Char} {pos : Nat} {ts : List Token}
    (hcs : whole.drop pos = cs) (hpos : pos ≤ whole.length) (h : scanFrom 0 pos cs = .ok ts) :
    Partition whole pos whole.length ts := by
  have hlength : pos + cs.length = whole.length := by
    rw [← hcs, List.length_drop]
    omega
  induction cs using scan_induction generalizing pos ts with
  | nil =>
    obtain rfl : [] = ts := Except.ok.inj h
    rw [List.length_nil, Nat.add_zero] at hlength
    rw [← hlength]
    exact Partition.nil whole pos
  | blank c cs hblank ih =>
    rw [scanFrom_blank hblank] at h
    rw [List.length_cons] at hlength
    have hc : whole[pos]? = some c := by rw [← List.head?_drop, hcs]; rfl
    have hbehind : whole.drop (pos + 1) = cs := @drop_of_append whole [c] cs pos hcs
    exact (ih hbehind (by omega) h (by omega)).behind_blank hc hblank
  | refused c cs hblank hfront =>
    rw [scanFrom_refused hblank hfront] at h
    cases h
  | lexeme p rest l hp hlongest ih =>
    rw [scanFrom_longest hlongest] at h
    obtain ⟨us, hus, rfl⟩ := exists_of_map_eq_ok h
    rw [List.length_append] at hlength
    rw [← hcs] at hlongest
    exact (ih (drop_of_append hcs) (by omega) hus (by omega)).cons hlongest
      (List.length_pos_iff.2 hp) (by omega)

/-- Where scanning stops, what stands in front is partitioned, and nothing can go on. -/
theorem exists_of_scanFrom_error {whole cs : List Char} {pos place : Nat} {complaint : Complaint}
    (hcs : whole.drop pos = cs) (h : scanFrom 0 pos cs = .error (complaint, place)) :
    ∃ front c behind ts, cs = front ++ c :: behind ∧ place = pos + front.length ∧
      Text.isBlank c = false ∧ Lexeme.front? (c :: behind) = none ∧
      scanFrom 0 pos front = .ok ts ∧ Partition whole pos place ts := by
  induction cs using scan_induction generalizing pos with
  | nil => cases h
  | blank c cs hblank ih =>
    rw [scanFrom_blank hblank] at h
    have hbehind : whole.drop (pos + 1) = cs := @drop_of_append whole [c] cs pos hcs
    obtain ⟨front, d, behind, ts, rfl, rfl, hd, hnone, hts, hpartition⟩ := ih hbehind h
    have hc : whole[pos]? = some c := by rw [← List.head?_drop, hcs]; rfl
    refine ⟨c :: front, d, behind, ts, rfl, ?_, hd, hnone, ?_, hpartition.behind_blank hc hblank⟩
    · rw [List.length_cons]
      omega
    · rw [scanFrom_blank hblank, hts]
  | refused c cs hblank hfront =>
    rw [scanFrom_refused hblank hfront] at h
    obtain ⟨-, rfl⟩ := Prod.mk.inj (Except.error.inj h)
    exact ⟨[], c, cs, [], rfl, rfl, hblank, hfront, rfl, Partition.nil whole pos⟩
  | lexeme p rest l hp hlongest ih =>
    rw [scanFrom_longest hlongest] at h
    cases hrest : scanFrom 0 (pos + p.length) rest with
    | ok us => rw [hrest] at h; cases h
    | error refusal =>
      rw [hrest] at h
      obtain rfl : refusal = (complaint, place) := Except.error.inj h
      obtain ⟨front, d, behind, ts, rfl, rfl, hd, hnone, hts, hpartition⟩ :=
        ih (drop_of_append hcs) hrest
      -- The lexeme is the longest also of the text that ends in front of the place.
      have hfront := Lexeme.front?_eq_some_iff.2 hlongest
      rw [← List.append_assoc] at hfront
      have hshort := Lexeme.front?_eq_some_iff.1
        (Lexeme.front?_of_append hfront (by simp))
      rw [← hcs] at hlongest
      refine ⟨p ++ front, d, behind, ⟨l, pos, pos + p.length⟩ :: ts, ?_, ?_, hd, hnone, ?_, ?_⟩
      · rw [List.append_assoc]
      · rw [List.length_append, Nat.add_assoc]
      · rw [scanFrom_longest hshort, hts]
        rfl
      · exact hpartition.cons hlongest (List.length_pos_iff.2 hp) (Nat.le_add_right _ _)

open Condition in
/-- **Scanning partitions the text.** A text that is cut into tokens has the one partition that they
make, its tokens stand one behind the other, and its end behind all of them. A text that is refused has a
partition up to the place that is refused, which is that of the text in front of this place; the
character there is not blank, and no lexeme is written there. -/
theorem scan_partitions (cs : List Char) :
    (∃ ts, scan cs = .ok ts ∧ (∀ us, Partition cs 0 cs.length us ↔ us = ts) ∧
      (symbolsOf ts).getLast? = some none ∧ (placesOf ts cs.length).getLast? = some cs.length ∧
      (placesOf ts cs.length).Pairwise (· < ·)) ∨
    ∃ complaint p c ts, scan cs = .error (complaint, p) ∧ cs[p]? = some c ∧
      Text.isBlank c = false ∧ (∀ q l, q <+: cs.drop p → ¬Lexeme.Written q l) ∧
      scan (cs.take p) = .ok ts ∧ ∀ us, Partition cs 0 p us ↔ us = ts := by
  cases h : scan cs with
  | ok ts =>
    have hpartition := partition_of_scanFrom rfl (Nat.zero_le _) h
    refine .inl ⟨ts, rfl, fun us => ⟨fun hus => hus.unique hpartition, ?_⟩, ?_, ?_, ?_⟩
    · rintro rfl
      exact hpartition
    · simp [symbolsOf]
    · simp [placesOf]
    · have hstarts : (ts.map Token.start).Pairwise (· < ·) := by
        refine List.pairwise_map.2 (hpartition.ordered.imp_of_mem fun ht _ hle => ?_)
        exact Nat.lt_of_lt_of_le (hpartition.start_lt _ ht) hle
      refine List.pairwise_append.2 ⟨hstarts, List.pairwise_singleton _ _, fun n hn m hm => ?_⟩
      obtain ⟨t, ht, rfl⟩ := List.mem_map.1 hn
      obtain rfl := List.mem_singleton.1 hm
      exact Nat.lt_of_lt_of_le (hpartition.start_lt t ht) (hpartition.le_last t ht)
  | error refusal =>
    obtain ⟨complaint, p⟩ := refusal
    obtain ⟨front, c, behind, ts, rfl, hp, hc, hnone, hts, hpartition⟩ :=
      exists_of_scanFrom_error rfl h
    rw [Nat.zero_add] at hp
    subst hp
    refine .inr ⟨complaint, front.length, c, ts, rfl, ?_, hc, ?_, ?_, ?_⟩
    · simp
    · rw [List.drop_left]
      exact Lexeme.front?_eq_none_iff.1 hnone
    · rw [List.take_left]
      exact hts
    · refine fun us => ⟨fun hus => hus.unique hpartition, ?_⟩
      rintro rfl
      exact hpartition

end Token

end RowAlert
