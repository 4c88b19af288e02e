import RowAlert.Proofs.Condition.Evaluation
import RowAlert.Proofs.Number.Digits
import RowAlert.Proofs.Number.Printing
/-!
# RowAlert.Proofs.Comparison

**Comparing values** is an equality and an order.

Equality looks at numbers if both sides have a numeric view and at texts otherwise, and still it is an
equivalence: two values are equal exactly if they have the same key (`Comparable.holds_equal_iff`). A
key is a place in the order, or else a text. The places and the texts are kept apart by the digits: a
value that is equal to a finite number as a text has a numeric view itself
(`Value.isSome_number?_of_comparedText`). Only an infinity can equal a text that is no number, namely
the word as which it prints, so that word shares its key.

Orders are those of the places.
-/

namespace RowAlert

/-! ### Places in the order -/

namespace Number

@[simp] theorem natAbs_signed (negative : Bool) (n : Nat) : (signed negative n).natAbs = n := by
  cases negative <;> simp [signed]

theorem signed_inj {negative negative' : Bool} {n : Nat} (hn : 0 < n)
    (h : signed negative n = signed negative' n) : negative = negative' := by
  cases negative <;> cases negative' <;> simp [signed] at h ⊢ <;> omega

/-- Finite numbers lie between the infinities. -/
theorem natAbs_position_lt {x : Number} (hx : x.isFinite = true) {a : Int}
    (h : x.position = some a) : a.natAbs < unitsLimit := by
  cases x with
  | nan => cases hx
  | infinite negative => cases hx
  | finite negative m =>
    obtain rfl := Option.some.inj h
    rw [natAbs_signed]
    exact m.representable.1

theorem isFinite_of_equal {x y : Number} (h : x.equal y = true) (hy : y.isFinite = true) :
    x.isFinite = true := by
  cases y with
  | nan => cases hy
  | infinite negative => cases hy
  | finite negative m =>
    cases x with
    | nan => cases h
    | finite negative' m' => rfl
    | infinite negative' =>
      have hlt := natAbs_position_lt (x := finite negative m) rfl rfl
      have hplace : signed negative' unitsLimit = signed negative m.units := of_decide_eq_true h
      rw [← hplace, natAbs_signed] at hlt
      exact absurd hlt (Nat.lt_irrefl _)

/-- The text that is printed of a finite number reads as a finite number. -/
theorem ofChars?_plainText {x : Number} (hx : x.isFinite = true) :
    ∃ y, ofChars? (Text.trim x.plainText.toList) = some y ∧ y.isFinite = true := by
  obtain ⟨f, hf, hchars, hvalue⟩ := exists_numeral_of_plainText hx
  have htrim : Text.trim f.chars = f.chars := by
    obtain ⟨c, hc, -⟩ := hf.exists_digit
    exact Text.trim_of_not_blank (List.ne_nil_of_mem hc) fun c hc => hf.ofPlain.not_isBlank hc
  rw [← hchars, htrim, f.ofChars?_chars hf.ofPlain, hf.plain_eq]
  exact ⟨_, rfl, isFinite_of_equal hvalue hx⟩

end Number

namespace Relation

/-- The relation between places in the order. -/
def onPlaces : Relation → Int → Int → Bool
  | less, a, b => a < b
  | atMost, a, b => a ≤ b
  | greater, a, b => b < a
  | atLeast, a, b => b ≤ a
  | equal, a, b => a = b
  | different, a, b => a ≠ b
  | other _, _, _ => false

theorem holds_eq_onPlaces (r : Relation) {x y : Number} {a b : Int} (hx : x.position = some a)
    (hy : y.position = some b) : r.holds x y = r.onPlaces a b := by
  cases r <;> simp [holds, onPlaces, Number.less, Number.atMost, Number.equal, hx, hy]

/-- The relations that ask for an order. -/
def orders : List Relation := [less, atMost, greater, atLeast]

/-- The relation that holds exactly where this one holds with its sides swapped. -/
def mirror : Relation → Relation
  | less => greater
  | greater => less
  | atMost => atLeast
  | atLeast => atMost
  | equal => equal
  | different => different
  | other s => other s

theorem onPlaces_mirror (r : Relation) (a b : Int) : r.mirror.onPlaces b a = r.onPlaces a b := by
  cases r <;> simp [mirror, onPlaces, eq_comm]

end Relation

/-! ### Numeric views and texts -/

namespace Value

theorem text_ne_missing (s name : String) : text s ≠ missing name := Value.noConfusion

theorem number_ne_missing (x : Number) (name : String) : number x ≠ missing name := Value.noConfusion

/-- What has a numeric view is not missing. -/
theorem ne_missing_of_number? {v : Value} {x : Number} (h : v.number? = some x) (name : String) :
    v ≠ missing name := by
  intro heq
  rw [heq] at h
  cases h

/-- A text has a numeric view if it is a numeral of a finite number. -/
theorem number?_text_eq_some_iff {s : String} {x : Number} :
    (text s).number? = some x ↔
      Number.ofChars? (Text.trim s.toList) = some x ∧ x.isFinite = true := by
  rw [number?]
  cases Number.ofChars? (Text.trim s.toList) with
  | none => simp
  | some y => by_cases hy : y.isFinite = true <;> grind

/-- A value that is compared as a finite number shows a digit. -/
theorem exists_digit_of_number? {v : Value} {x : Number} (h : v.number? = some x)
    (hx : x.isFinite = true) : ∃ c ∈ v.toText.toList, Text.isDigit c = true := by
  have hread : ∀ {s : String} {y : Number}, Number.ofChars? (Text.trim s.toList) = some y →
      y.isFinite = true → ∃ c ∈ s.toList, Text.isDigit c = true := by
    intro s y hy hfinite
    obtain ⟨c, hc, hdigit⟩ := Number.exists_digit_of_ofChars? hy hfinite
    exact ⟨c, Text.mem_of_mem_trim hc, hdigit⟩
  cases v with
  | number y =>
    obtain rfl := Option.some.inj h
    obtain ⟨z, hz, hfinite⟩ := Number.ofChars?_plainText hx
    exact hread hz hfinite
  | text s => exact hread (number?_text_eq_some_iff.1 h).1 hx
  | missing name => cases h

theorem comparedText_cases (v : Value) :
    v.comparedText = v.toText ∨
      v.comparedText = Text.lower v.toText ∧ Text.lower v.toText ∈ truthWords := by
  simp only [comparedText]
  split
  · rename_i h
    exact .inr ⟨rfl, List.contains_iff_mem.1 h⟩
  · exact .inl rfl

theorem not_isDigit_of_mem_truthWords {s : String} (h : s ∈ truthWords) {c : Char}
    (hc : c ∈ s.toList) : Text.isDigit c = false := by
  have hwords : (truthWords.all fun s => s.toList.all fun c => !Text.isDigit c) = true := by decide
  simpa using List.all_eq_true.1 (List.all_eq_true.1 hwords s h) c hc

/-- A text with a digit is no word for truth. -/
theorem comparedText_of_digit {v : Value} {c : Char} (hc : c ∈ v.toText.toList)
    (hdigit : Text.isDigit c = true) : v.comparedText = v.toText := by
  rcases v.comparedText_cases with h | ⟨-, htruth⟩
  · exact h
  · have hnot := not_isDigit_of_mem_truthWords htruth (Text.mem_lower_of_isDigit hdigit hc)
    rw [hdigit] at hnot
    cases hnot

/-- What is compared like a finite number has a numeric view. -/
theorem isSome_number?_of_comparedText {v w : Value} {x : Number} (h : v.number? = some x)
    (hx : x.isFinite = true) (heq : v.comparedText = w.comparedText) : w.number?.isSome := by
  obtain ⟨c, hc, hdigit⟩ := exists_digit_of_number? h hx
  rw [comparedText_of_digit hc hdigit] at heq
  have htext : w.toText = v.toText := by
    rcases w.comparedText_cases with hw | ⟨hw, htruth⟩
    · rw [heq, hw]
    · rw [heq, hw] at hc
      rw [not_isDigit_of_mem_truthWords htruth hc] at hdigit
      cases hdigit
  cases w with
  | number y => rfl
  | missing name =>
    rw [← htext] at hc
    cases hc
  | text t =>
    obtain rfl : t = v.toText := htext
    cases v with
    | number y =>
      obtain rfl := Option.some.inj h
      obtain ⟨z, hread⟩ := Number.ofChars?_plainText hx
      rw [toText, number?_text_eq_some_iff.2 hread]
      rfl
    | text s =>
      rw [toText, h]
      rfl
    | missing name => cases h

/-- Values with the same finite numeric view are compared alike, on either side: with the same
answer, or with none. -/
theorem compare_congr_of_number? {v v' : Value} {x : Number} (hv : v.number? = some x)
    (hv' : v'.number? = some x) (hx : x.isFinite = true) (r : Relation) (w : Value) :
    (compare r v w).toOption = (compare r v' w).toOption ∧
      (compare r w v).toOption = (compare r w v').toOption := by
  by_cases hw : ∃ name, w = missing name
  · obtain ⟨name, rfl⟩ := hw
    cases v with
    | missing field => cases hv
    | _ =>
      cases v' with
      | missing field => cases hv'
      | _ => exact ⟨rfl, rfl⟩
  · have hw := not_exists.1 hw
    have hp := ne_missing_of_number? hv
    have hp' := ne_missing_of_number? hv'
    rw [compare_of_present hp hw, compare_of_present hp' hw, compare_of_present hw hp,
      compare_of_present hw hp', hv, hv']
    cases hy : w.number? with
    | some y => exact ⟨rfl, rfl⟩
    | none =>
      -- A text without a numeric view differs from the texts of both.
      have hne : ∀ {u : Value}, u.number? = some x → u.comparedText ≠ w.comparedText := by
        intro u hu heq
        have hsome := isSome_number?_of_comparedText hu hx heq
        rw [hy] at hsome
        cases hsome
      cases r <;>
        simp [Relation.onTexts, hne hv, hne hv', (hne hv).symm, (hne hv').symm, Except.toOption]

/-- An infinity is compared as the word that it prints as. -/
theorem comparedText_infinite (negative : Bool) :
    (number (.infinite negative)).comparedText = (Number.infinite negative).plainText := by
  cases negative <;> decide +kernel

/-! ### Values that can be compared -/

/-- A value that can be compared: it is there, and it is not NaN. -/
structure Comparable where
  value : Value
  present : ∀ name, value ≠ missing name
  ordered : value ≠ number .nan

/-- Every text can be compared. -/
def Comparable.ofText (s : String) : Comparable where
  value := text s
  present := text_ne_missing s
  ordered := Value.noConfusion

/-- Every number can be compared, except NaN. -/
def Comparable.ofNumber (x : Number) (h : x ≠ .nan) : Comparable where
  value := number x
  present := number_ne_missing x
  ordered := fun heq => h (Value.number.inj heq)

/-- A value that has a numeric view, and so a place in the order. -/
structure Numeric extends Comparable where
  isSome_number? : value.number?.isSome

/-- The relation holds between the values. -/
def Holds (r : Relation) (v w : Value) : Prop := compare r v w = .ok true

instance (r : Relation) (v w : Value) : Decidable (Holds r v w) :=
  inferInstanceAs (Decidable (_ = _))

/-- The key of a text: an infinity for the words as which the infinities print, else the text. -/
def textKey (s : String) : Int ⊕ String :=
  if s = (Number.infinite false).plainText then .inl (Number.signed false unitsLimit)
  else if s = (Number.infinite true).plainText then .inl (Number.signed true unitsLimit)
  else .inr s

/-- What a value is equal by: its place in the order, or else a text. -/
def Comparable.key (v : Comparable) : Int ⊕ String :=
  match v.value.number? with
  | some x => .inl (x.position.getD 0)
  | none => textKey v.value.comparedText

theorem textKey_eq_inl_iff {s : String} {a : Int} :
    textKey s = .inl a ↔ ∃ negative, s = (Number.infinite negative).plainText ∧
      a = Number.signed negative unitsLimit := by
  have hwords : (Number.infinite true).plainText ≠ (Number.infinite false).plainText := by decide
  constructor
  · intro h
    rw [textKey] at h
    split at h
    · exact ⟨false, ‹_›, (Sum.inl.inj h).symm⟩
    · split at h
      · exact ⟨true, ‹_›, (Sum.inl.inj h).symm⟩
      · cases h
  · rintro ⟨negative, rfl, rfl⟩
    cases negative with
    | false => rw [textKey, if_pos rfl]
    | true => rw [textKey, if_neg hwords, if_pos rfl]

theorem textKey_injective : Function.Injective textKey := by
  intro s t h
  cases hs : textKey s with
  | inl a =>
    obtain ⟨negative, rfl, ha⟩ := textKey_eq_inl_iff.1 hs
    obtain ⟨negative', rfl, ha'⟩ := textKey_eq_inl_iff.1 (h.symm.trans hs)
    rw [Number.signed_inj unitsLimit_pos (ha.symm.trans ha')]
  | inr u =>
    have htext : ∀ {s : String}, textKey s = .inr u → s = u := by
      intro s hs
      rw [textKey] at hs
      split at hs
      · cases hs
      · split at hs
        · cases hs
        · exact Sum.inr.inj hs
    rw [htext hs, htext (h.symm.trans hs)]

theorem Comparable.exists_position (v : Comparable) {x : Number} (h : v.value.number? = some x) :
    ∃ a, x.position = some a :=
  Number.exists_position (number?_ne_nan v.ordered h)

/-- Between a value with a numeric view and one without, texts decide as keys do. -/
theorem comparedText_eq_iff_key {v w : Value} {x : Number} {a : Int} (hv : v.number? = some x)
    (hplace : x.position = some a) (hw : w.number? = none) :
    v.comparedText = w.comparedText ↔ .inl a = textKey w.comparedText := by
  by_cases hx : x.isFinite = true
  · -- Neither happens: texts without a numeric view show no finite number, and their keys no finite place.
    constructor
    · intro heq
      have hsome := isSome_number?_of_comparedText hv hx heq
      rw [hw] at hsome
      cases hsome
    · intro hkey
      obtain ⟨negative, -, rfl⟩ := textKey_eq_inl_iff.1 hkey.symm
      have hlt := Number.natAbs_position_lt hx hplace
      rw [Number.natAbs_signed] at hlt
      exact absurd hlt (Nat.lt_irrefl _)
  · obtain ⟨negative, rfl, rfl⟩ : ∃ negative, v = number (.infinite negative) ∧
        a = Number.signed negative unitsLimit := by
      cases v with
      | missing name => cases hv
      | text s => exact absurd (number?_text_eq_some_iff.1 hv).2 hx
      | number y =>
        obtain rfl := Option.some.inj hv
        cases y with
        | nan => cases hplace
        | finite negative m => exact absurd rfl hx
        | infinite negative => exact ⟨negative, rfl, (Option.some.inj hplace).symm⟩
    have hkey : textKey (Number.infinite negative).plainText = .inl (Number.signed negative unitsLimit) :=
      textKey_eq_inl_iff.2 ⟨negative, rfl, rfl⟩
    rw [comparedText_infinite, ← hkey]
    exact textKey_injective.eq_iff.symm

/-- **Values are equal exactly if they have the same key.** -/
theorem Comparable.compare_equal (v w : Comparable) :
    compare .equal v.value w.value = .ok (decide (v.key = w.key)) := by
  rw [compare_of_present v.present w.present, key, key]
  cases hv : v.value.number? with
  | some x =>
    obtain ⟨a, ha⟩ := v.exists_position hv
    cases hw : w.value.number? with
    | some y =>
      obtain ⟨b, hb⟩ := w.exists_position hw
      simp [Relation.onNumbers, Relation.holds_eq_onPlaces _ ha hb, Relation.onPlaces, ha, hb]
    | none =>
      simp [Relation.onTexts, comparedText_eq_iff_key hv ha hw, ha]
  | none =>
    cases hw : w.value.number? with
    | some y =>
      obtain ⟨b, hb⟩ := w.exists_position hw
      have hkeys : v.value.comparedText = w.value.comparedText ↔
          textKey v.value.comparedText = .inl b :=
        eq_comm.trans ((comparedText_eq_iff_key hw hb hv).trans eq_comm)
      simp [Relation.onTexts, hkeys, hb]
    | none => simp [Relation.onTexts, textKey_injective.eq_iff]

theorem Comparable.compare_different (v w : Comparable) :
    compare .different v.value w.value = .ok (!decide (v.key = w.key)) := by
  have hnot := compare_complement .equal v.ordered w.ordered
  rw [v.compare_equal w] at hnot
  cases h : compare .different v.value w.value <;> rw [Relation.complement, h] at hnot <;> cases hnot
  rfl

theorem Comparable.holds_equal_iff (v w : Comparable) :
    Holds .equal v.value w.value ↔ v.key = w.key := by
  rw [Holds, v.compare_equal w]
  simp

/-- The place of a value with a numeric view. -/
def Numeric.place (v : Numeric) : Int := (v.value.number?.bind Number.position).getD 0

theorem Numeric.compare_eq (v w : Numeric) {r : Relation} (hr : r ∈ Relation.all) :
    compare r v.value w.value = .ok (r.onPlaces v.place w.place) := by
  obtain ⟨x, hx⟩ := Option.isSome_iff_exists.1 v.isSome_number?
  obtain ⟨y, hy⟩ := Option.isSome_iff_exists.1 w.isSome_number?
  obtain ⟨a, ha⟩ := v.exists_position hx
  obtain ⟨b, hb⟩ := w.exists_position hy
  have hplaces : v.place = a ∧ w.place = b := by simp [place, hx, hy, ha, hb]
  rw [compare_of_present v.present w.present, hx, hy, hplaces.1, hplaces.2,
    ← r.holds_eq_onPlaces ha hb]
  cases r with
  | other s => simp [Relation.all] at hr
  | _ => rfl

theorem Numeric.holds_iff (v w : Numeric) {r : Relation} (hr : r ∈ Relation.all) :
    Holds r v.value w.value ↔ r.onPlaces v.place w.place = true := by
  rw [Holds, v.compare_eq w hr]
  simp

/-! ### The laws -/

theorem equivalence_equal :
    Equivalence fun v w : Comparable => Holds .equal v.value w.value := by
  have hkeys : (fun v w : Comparable => Holds .equal v.value w.value) =
      fun v w => v.key = w.key :=
    funext fun v => funext fun w => propext (v.holds_equal_iff w)
  rw [hkeys]
  exact eq_equivalence.comap Comparable.key

/-- Exactly one of less, equal and greater holds between values with a numeric view. -/
theorem Numeric.trichotomy (v w : Numeric) :
    ∃! r, r ∈ [Relation.less, .equal, .greater] ∧ Holds r v.value w.value := by
  have hall : [Relation.less, .equal, .greater] ⊆ Relation.all := by decide
  have hexists : ∃ r ∈ [Relation.less, .equal, .greater], ∀ r' ∈ [Relation.less, .equal, .greater],
      (r'.onPlaces v.place w.place = true ↔ r' = r) := by
    rcases Int.lt_trichotomy v.place w.place with h | h | h
    · exact ⟨.less, by simp, by simp [Relation.onPlaces]; omega⟩
    · exact ⟨.equal, by simp, by simp [Relation.onPlaces]; omega⟩
    · exact ⟨.greater, by simp, by simp [Relation.onPlaces]; omega⟩
  obtain ⟨r, hr, honly⟩ := hexists
  refine ⟨r, ⟨hr, (v.holds_iff w (hall hr)).2 ((honly r hr).2 rfl)⟩, ?_⟩
  intro r' h
  exact (honly r' h.1).1 ((v.holds_iff w (hall h.1)).1 h.2)

theorem Numeric.holds_atMost_iff (v w : Numeric) :
    Holds .atMost v.value w.value ↔ Holds .less v.value w.value ∨ Holds .equal v.value w.value := by
  rw [v.holds_iff w (by decide), v.holds_iff w (by decide), v.holds_iff w (by decide)]
  simp only [Relation.onPlaces, decide_eq_true_eq]
  omega

theorem Numeric.holds_atLeast_iff (v w : Numeric) :
    Holds .atLeast v.value w.value ↔
      Holds .greater v.value w.value ∨ Holds .equal v.value w.value := by
  rw [v.holds_iff w (by decide), v.holds_iff w (by decide), v.holds_iff w (by decide)]
  simp only [Relation.onPlaces, decide_eq_true_eq]
  omega

theorem Numeric.less_trans {u v w : Numeric} (huv : Holds .less u.value v.value)
    (hvw : Holds .less v.value w.value) : Holds .less u.value w.value := by
  rw [holds_iff _ _ (by decide)] at huv hvw ⊢
  simp only [Relation.onPlaces, decide_eq_true_eq] at huv hvw ⊢
  exact Int.lt_trans huv hvw

/-- With its sides swapped, the mirrored relation gives the same answer. -/
theorem Numeric.compare_mirror (r : Relation) (v w : Numeric) :
    compare r.mirror w.value v.value = compare r v.value w.value := by
  cases r with
  | other s =>
    obtain ⟨x, hx⟩ := Option.isSome_iff_exists.1 v.isSome_number?
    obtain ⟨y, hy⟩ := Option.isSome_iff_exists.1 w.isSome_number?
    rw [compare_of_present v.present w.present, compare_of_present w.present v.present, hx, hy]
    rfl
  | _ =>
    rw [w.compare_eq v (by decide), v.compare_eq w (by decide), Relation.onPlaces_mirror]

/-- An order is refused exactly if one side has no numeric view. -/
theorem Comparable.compare_error_iff (v w : Comparable) {r : Relation} (hr : r ∈ Relation.orders) :
    (∃ e, compare r v.value w.value = .error e) ↔
      v.value.number? = none ∨ w.value.number? = none := by
  rw [compare_of_present v.present w.present]
  simp only [Relation.orders, List.mem_cons, List.not_mem_nil, or_false] at hr
  cases v.value.number? with
  | none => rcases hr with rfl | rfl | rfl | rfl <;> simp [Relation.onTexts]
  | some x =>
    cases w.value.number? with
    | none => rcases hr with rfl | rfl | rfl | rfl <;> simp [Relation.onTexts]
    | some y => rcases hr with rfl | rfl | rfl | rfl <;> simp [Relation.onNumbers]

/-- A missing side is refused by every relation. -/
theorem compare_missing (r : Relation) (name : String) (v : Value) :
    compare r (missing name) v = .error (.missingField name) ∧
      ∃ field, compare r v (missing name) = .error (.missingField field) := by
  refine ⟨rfl, ?_⟩
  cases v with
  | missing field => exact ⟨field, rfl⟩
  | _ => exact ⟨name, rfl⟩

/-- **Comparing is a coherent equality and order.** Equality is decided between all values that can be
compared, as an equivalence whose negation is the difference. An order is decided exactly between
values that have a numeric view, and there it is a strict order in which any two values that are not
equal are in one order or the other. A missing side is refused whatever the relation is. -/
theorem compare_coherent :
    (Equivalence fun v w : Comparable => Holds .equal v.value w.value) ∧
      (∀ v w : Comparable, ∃ b, compare .equal v.value w.value = .ok b ∧
        compare .different v.value w.value = .ok !b) ∧
      (∀ v w : Comparable, ∀ r ∈ Relation.orders, ((∃ e, compare r v.value w.value = .error e) ↔
        v.value.number? = none ∨ w.value.number? = none)) ∧
      (∀ v w : Numeric,
        (∃! r, r ∈ [Relation.less, .equal, .greater] ∧ Holds r v.value w.value) ∧
        (Holds .atMost v.value w.value ↔ Holds .less v.value w.value ∨ Holds .equal v.value w.value) ∧
        (Holds .atLeast v.value w.value ↔
          Holds .greater v.value w.value ∨ Holds .equal v.value w.value) ∧
        ∀ r, compare r.mirror w.value v.value = compare r v.value w.value) ∧
      (∀ u v w : Numeric, Holds .less u.value v.value → Holds .less v.value w.value →
        Holds .less u.value w.value) ∧
      ∀ r name v, compare r (missing name) v = .error (.missingField name) ∧
        ∃ field, compare r v (missing name) = .error (.missingField field) := by
  refine ⟨equivalence_equal, ?_, ?_, ?_, ?_, compare_missing⟩
  · intro v w
    exact ⟨_, v.compare_equal w, v.compare_different w⟩
  · intro v w r hr
    exact v.compare_error_iff w hr
  · intro v w
    exact ⟨v.trichotomy w, v.holds_atMost_iff w, v.holds_atLeast_iff w,
      fun r => Numeric.compare_mirror r v w⟩
  · intro u v w huv hvw
    exact Numeric.less_trans huv hvw

/-- Two spellings of a number in cells, and the number itself. -/
theorem compare_coherent_numerals :
    let cell := Comparable.ofText " 1.0 "
    let literal := Comparable.ofNumber (.ofRatio false 1 1) (by decide +kernel)
    let other := Comparable.ofText "+1e0"
    Holds .equal cell.value literal.value ∧ Holds .equal literal.value other.value ∧
      Holds .equal cell.value other.value := by
  intro cell literal other
  have hcell : Holds .equal cell.value literal.value := by decide +kernel
  have hother : Holds .equal literal.value other.value := by decide +kernel
  exact ⟨hcell, hother, compare_coherent.1.trans hcell hother⟩

end Value

end RowAlert
