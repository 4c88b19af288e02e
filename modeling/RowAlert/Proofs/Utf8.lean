import Mathlib.Data.List.Basic
import RowAlert.Text.Utf8
/-!
# RowAlert.Proofs.Utf8

**What is UTF-8.**

Bytes are decoded if and only if they are the encoding of some characters, and these are what they decode
to (`decode_eq_ok_iff`). For a single character this says that the start bytes and the bytes admissible
behind them are those of the code points, each in its shortest form (`encode_of_spells`,
`spells_of_char`); the rest is an induction over the sequence, one character after the other.
-/

namespace RowAlert.Text.Utf8

/-- The bytes of some characters in UTF-8. -/
def encode (cs : List Char) : List UInt8 := cs.flatMap String.utf8EncodeChar

/-- The bytes behind a start byte are as announced, and the sequence is that of a code point. -/
def Spells (b : UInt8) (more : List UInt8) (n : Nat) : Prop :=
  ∃ bits wanted, announced? b = some (bits, wanted) ∧ more.length = wanted.length ∧
    continued bits wanted more 1 = .ok n

/-! ### One character -/

theorem ofNat_eq_of_toNat {k : Nat} {b : UInt8} (h : k = b.toNat) : UInt8.ofNat k = b := by
  rw [h, UInt8.ofNat_toNat]

theorem toNat_ofNat_of_lt {k : Nat} (h : k < 256) : (UInt8.ofNat k).toNat = k := by
  rw [UInt8.toNat_ofNat']
  omega

theorem toNat_val_ofNat {n : Nat} (h : n.isValidChar) : (Char.ofNat n).val.toNat = n := by
  rw [Char.ofNat, dif_pos h]
  rfl

theorem encode_one {b : UInt8} (hb : b.toNat < 0x80) :
    String.utf8EncodeChar (Char.ofNat b.toNat) = [b] := by
  have hvalid : b.toNat.isValidChar := .inl (by omega)
  rw [String.utf8EncodeChar, toNat_val_ofNat hvalid]
  simp only [show b.toNat ≤ 127 by omega, if_true, UInt8.ofNat_toNat]

theorem encode_two {b c : UInt8} {n : Nat} (hn : n = (b.toNat - 0xC0) * 64 + (c.toNat - 0x80))
    (hb : 0xC2 ≤ b.toNat ∧ b.toNat < 0xE0) (hc : 0x80 ≤ c.toNat ∧ c.toNat ≤ 0xBF) :
    n.isValidChar ∧ String.utf8EncodeChar (Char.ofNat n) = [b, c] := by
  have hvalid : n.isValidChar := .inl (by omega)
  refine ⟨hvalid, ?_⟩
  rw [String.utf8EncodeChar, toNat_val_ofNat hvalid]
  simp only [show ¬ n ≤ 127 by omega, show n ≤ 2047 by omega, if_true, if_false]
  rw [ofNat_eq_of_toNat (show n / 64 % 32 + 192 = b.toNat by omega),
    ofNat_eq_of_toNat (show n % 64 + 128 = c.toNat by omega)]

theorem encode_three {b c d : UInt8} {n : Nat}
    (hn : n = ((b.toNat - 0xE0) * 64 + (c.toNat - 0x80)) * 64 + (d.toNat - 0x80))
    (hb : 0xE0 ≤ b.toNat ∧ b.toNat < 0xF0) (hc : 0x80 ≤ c.toNat ∧ c.toNat ≤ 0xBF)
    (hd : 0x80 ≤ d.toNat ∧ d.toNat ≤ 0xBF) (hlong : 0x800 ≤ n) (hplain : n < 0xD800 ∨ 0xDFFF < n) :
    n.isValidChar ∧ String.utf8EncodeChar (Char.ofNat n) = [b, c, d] := by
  have hvalid : n.isValidChar := by
    rcases hplain with h | h
    · exact .inl h
    · exact .inr ⟨h, by omega⟩
  refine ⟨hvalid, ?_⟩
  rw [String.utf8EncodeChar, toNat_val_ofNat hvalid]
  simp only [show ¬ n ≤ 127 by omega, show ¬ n ≤ 2047 by omega, show n ≤ 65535 by omega, if_true,
    if_false]
  rw [ofNat_eq_of_toNat (show n / 4096 % 16 + 224 = b.toNat by omega),
    ofNat_eq_of_toNat (show n / 64 % 64 + 128 = c.toNat by omega),
    ofNat_eq_of_toNat (show n % 64 + 128 = d.toNat by omega)]

theorem encode_four {b c d e : UInt8} {n : Nat}
    (hn : n = (((b.toNat - 0xF0) * 64 + (c.toNat - 0x80)) * 64 + (d.toNat - 0x80)) * 64 + (e.toNat - 0x80))
    (hb : 0xF0 ≤ b.toNat ∧ b.toNat ≤ 0xF4) (hc : 0x80 ≤ c.toNat ∧ c.toNat ≤ 0xBF)
    (hd : 0x80 ≤ d.toNat ∧ d.toNat ≤ 0xBF) (he : 0x80 ≤ e.toNat ∧ e.toNat ≤ 0xBF)
    (hlong : 0x10000 ≤ n) (hlast : n < 0x110000) :
    n.isValidChar ∧ String.utf8EncodeChar (Char.ofNat n) = [b, c, d, e] := by
  have hvalid : n.isValidChar := .inr ⟨by omega, hlast⟩
  refine ⟨hvalid, ?_⟩
  rw [String.utf8EncodeChar, toNat_val_ofNat hvalid]
  simp only [show ¬ n ≤ 127 by omega, show ¬ n ≤ 2047 by omega, show ¬ n ≤ 65535 by omega, if_false]
  rw [ofNat_eq_of_toNat (show n / 262144 % 8 + 240 = b.toNat by omega),
    ofNat_eq_of_toNat (show n / 4096 % 64 + 128 = c.toNat by omega),
    ofNat_eq_of_toNat (show n / 64 % 64 + 128 = d.toNat by omega),
    ofNat_eq_of_toNat (show n % 64 + 128 = e.toNat by omega)]

/-! ### What start bytes announce -/

section

variable {b : UInt8}

theorem announced_one (h : b.toNat < 0x80) : announced? b = some (b.toNat, []) := by
  simp [announced?, h]

theorem announced_two (h : 0xC2 ≤ b.toNat ∧ b.toNat < 0xE0) :
    announced? b = some (b.toNat - 0xC0, [(0x80, 0xBF)]) := by
  simp [announced?, show ¬ b.toNat < 0x80 by omega, show ¬ b.toNat < 0xC2 by omega, h.2]

/-- The byte behind `E0` makes the code point long enough, the one behind `ED` keeps it below the
surrogates. -/
theorem announced_three (h : 0xE0 ≤ b.toNat ∧ b.toNat < 0xF0) :
    announced? b = some (b.toNat - 0xE0,
      [(if b.toNat = 0xE0 then 0xA0 else 0x80, if b.toNat = 0xED then 0x9F else 0xBF), (0x80, 0xBF)]) := by
  grind [announced?]

/-- The byte behind `F0` makes the code point long enough, the one behind `F4` keeps it from being too
large. -/
theorem announced_four (h : 0xF0 ≤ b.toNat ∧ b.toNat ≤ 0xF4) :
    announced? b = some (b.toNat - 0xF0,
      [(if b.toNat = 0xF0 then 0x90 else 0x80, if b.toNat = 0xF4 then 0x8F else 0xBF), (0x80, 0xBF),
        (0x80, 0xBF)]) := by
  grind [announced?]

theorem announced_none (h : 0x80 ≤ b.toNat ∧ b.toNat < 0xC2 ∨ 0xF4 < b.toNat) :
    announced? b = none := by
  grind [announced?]

end

/-- A byte that continues a character within bounds. -/
theorem continued_cons_eq_ok {bits n taken : Nat} {bounds : Nat × Nat} {wanted : List (Nat × Nat)}
    {b : UInt8} {bs : List UInt8} :
    continued bits (bounds :: wanted) (b :: bs) taken = .ok n ↔
      (bounds.1 ≤ b.toNat ∧ b.toNat ≤ bounds.2) ∧
        continued (bits * 64 + (b.toNat - 0x80)) wanted bs (taken + 1) = .ok n := by
  rw [continued]
  by_cases h : bounds.1 ≤ b.toNat ∧ b.toNat ≤ bounds.2 <;> simp [h]

theorem continued_nil_eq_ok {bits n taken : Nat} {bs : List UInt8} :
    continued bits [] bs taken = .ok n ↔ bits = n := by
  rw [continued]
  exact ⟨Except.ok.inj, congrArg Except.ok⟩

/-- What starts a character, by the number of bytes to come. -/
theorem start_cases (b : UInt8) :
    b.toNat < 0x80 ∨ (0xC2 ≤ b.toNat ∧ b.toNat < 0xE0) ∨ (0xE0 ≤ b.toNat ∧ b.toNat < 0xF0) ∨
      (0xF0 ≤ b.toNat ∧ b.toNat ≤ 0xF4) ∨ (0x80 ≤ b.toNat ∧ b.toNat < 0xC2 ∨ 0xF4 < b.toNat) := by
  omega

/-- Sequences that are admitted are those of code points. -/
theorem encode_of_spells {b : UInt8} {more : List UInt8} {n : Nat} (h : Spells b more n) :
    n.isValidChar ∧ String.utf8EncodeChar (Char.ofNat n) = b :: more := by
  obtain ⟨bits, wanted, hstart, hlength, hmore⟩ := h
  rcases start_cases b with hb | hb | hb | hb | hb
  · rw [announced_one hb] at hstart
    obtain ⟨rfl, rfl⟩ := Prod.mk.inj (Option.some.inj hstart)
    obtain rfl := List.length_eq_zero_iff.1 hlength
    obtain rfl := continued_nil_eq_ok.1 hmore
    exact ⟨.inl (by omega), encode_one hb⟩
  · rw [announced_two hb] at hstart
    obtain ⟨rfl, rfl⟩ := Prod.mk.inj (Option.some.inj hstart)
    obtain ⟨c, rfl⟩ := List.length_eq_one_iff.1 hlength
    rw [continued_cons_eq_ok, continued_nil_eq_ok] at hmore
    exact encode_two hmore.2.symm hb hmore.1
  · rw [announced_three hb] at hstart
    obtain ⟨rfl, rfl⟩ := Prod.mk.inj (Option.some.inj hstart)
    obtain ⟨c, d, rfl⟩ := List.length_eq_two.1 hlength
    rw [continued_cons_eq_ok, continued_cons_eq_ok, continued_nil_eq_ok] at hmore
    obtain ⟨hsecond, hd, hn⟩ := hmore
    have hc : 0x80 ≤ c.toNat ∧ c.toNat ≤ 0xBF := by grind
    have hlong : b.toNat = 0xE0 → 0xA0 ≤ c.toNat := by grind
    have hplain : b.toNat = 0xED → c.toNat ≤ 0x9F := by grind
    exact encode_three hn.symm hb hc hd (by omega) (by omega)
  · rw [announced_four hb] at hstart
    obtain ⟨rfl, rfl⟩ := Prod.mk.inj (Option.some.inj hstart)
    obtain ⟨c, d, e, rfl⟩ := List.length_eq_three.1 hlength
    rw [continued_cons_eq_ok, continued_cons_eq_ok, continued_cons_eq_ok, continued_nil_eq_ok] at hmore
    obtain ⟨hsecond, hd, he, hn⟩ := hmore
    have hc : 0x80 ≤ c.toNat ∧ c.toNat ≤ 0xBF := by grind
    have hlong : b.toNat = 0xF0 → 0x90 ≤ c.toNat := by grind
    have hlast : b.toNat = 0xF4 → c.toNat ≤ 0x8F := by grind
    exact encode_four hn.symm hb hc hd he (by omega) (by omega)
  · rw [announced_none hb] at hstart
    cases hstart

theorem spells_one {n : Nat} (h : n ≤ 127) : Spells (UInt8.ofNat n) [] n := by
  have hb : (UInt8.ofNat n).toNat = n := toNat_ofNat_of_lt (by omega)
  refine ⟨_, _, announced_one (by omega), rfl, ?_⟩
  rw [hb, continued_nil_eq_ok]

theorem spells_two {n : Nat} (h : 127 < n ∧ n ≤ 2047) :
    Spells (UInt8.ofNat (n / 64 % 32 + 192)) [UInt8.ofNat (n % 64 + 128)] n := by
  have hb : (UInt8.ofNat (n / 64 % 32 + 192)).toNat = n / 64 % 32 + 192 := toNat_ofNat_of_lt (by omega)
  have hc : (UInt8.ofNat (n % 64 + 128)).toNat = n % 64 + 128 := toNat_ofNat_of_lt (by omega)
  refine ⟨_, _, announced_two (by omega), rfl, ?_⟩
  rw [continued_cons_eq_ok, continued_nil_eq_ok, hb, hc]
  omega

theorem spells_three {n : Nat} (h : 2047 < n ∧ n ≤ 65535) (hplain : n < 0xD800 ∨ 0xDFFF < n) :
    Spells (UInt8.ofNat (n / 4096 % 16 + 224))
      [UInt8.ofNat (n / 64 % 64 + 128), UInt8.ofNat (n % 64 + 128)] n := by
  have hb : (UInt8.ofNat (n / 4096 % 16 + 224)).toNat = n / 4096 % 16 + 224 :=
    toNat_ofNat_of_lt (by omega)
  have hc : (UInt8.ofNat (n / 64 % 64 + 128)).toNat = n / 64 % 64 + 128 := toNat_ofNat_of_lt (by omega)
  have hd : (UInt8.ofNat (n % 64 + 128)).toNat = n % 64 + 128 := toNat_ofNat_of_lt (by omega)
  refine ⟨_, _, announced_three (by omega), rfl, ?_⟩
  rw [continued_cons_eq_ok, continued_cons_eq_ok, continued_nil_eq_ok, hb, hc, hd]
  refine ⟨?_, by omega, by omega⟩
  constructor <;> dsimp only <;> split <;> omega

theorem spells_four {n : Nat} (h : 65535 < n ∧ n < 0x110000) :
    Spells (UInt8.ofNat (n / 262144 % 8 + 240))
      [UInt8.ofNat (n / 4096 % 64 + 128), UInt8.ofNat (n / 64 % 64 + 128), UInt8.ofNat (n % 64 + 128)]
      n := by
  have hb : (UInt8.ofNat (n / 262144 % 8 + 240)).toNat = n / 262144 % 8 + 240 :=
    toNat_ofNat_of_lt (by omega)
  have hc : (UInt8.ofNat (n / 4096 % 64 + 128)).toNat = n / 4096 % 64 + 128 :=
    toNat_ofNat_of_lt (by omega)
  have hd : (UInt8.ofNat (n / 64 % 64 + 128)).toNat = n / 64 % 64 + 128 := toNat_ofNat_of_lt (by omega)
  have he : (UInt8.ofNat (n % 64 + 128)).toNat = n % 64 + 128 := toNat_ofNat_of_lt (by omega)
  refine ⟨_, _, announced_four (by omega), rfl, ?_⟩
  rw [continued_cons_eq_ok, continued_cons_eq_ok, continued_cons_eq_ok, continued_nil_eq_ok, hb, hc, hd,
    he]
  refine ⟨?_, by omega, by omega, by omega⟩
  constructor <;> dsimp only <;> split <;> omega

/-- The sequence of a code point is admitted. -/
theorem spells_of_char (c : Char) :
    ∃ b more, String.utf8EncodeChar c = b :: more ∧ Spells b more c.toNat := by
  have hvalid : c.toNat < 0xD800 ∨ 0xDFFF < c.toNat ∧ c.toNat < 0x110000 := c.valid
  have hval : c.val.toNat = c.toNat := rfl
  rw [String.utf8EncodeChar, hval]
  by_cases h1 : c.toNat ≤ 127
  · exact ⟨_, _, if_pos h1, spells_one h1⟩
  · by_cases h2 : c.toNat ≤ 2047
    · simp only [h1, h2, if_true, if_false]
      exact ⟨_, _, rfl, spells_two ⟨by omega, h2⟩⟩
    · by_cases h3 : c.toNat ≤ 65535
      · simp only [h1, h2, h3, if_true, if_false]
        exact ⟨_, _, rfl, spells_three ⟨by omega, h3⟩ (by omega)⟩
      · simp only [h1, h2, h3, if_false]
        exact ⟨_, _, rfl, spells_four ⟨by omega, by omega⟩⟩

/-! ### Characters in sequence -/

theorem decodeFrom_skip (more rest : List UInt8) (position : Nat) :
    decodeFrom more.length position (more ++ rest) = decodeFrom 0 (position + more.length) rest := by
  induction more generalizing position with
  | nil => rfl
  | cons b more ih =>
    rw [List.length_cons, List.cons_append, decodeFrom, ih]
    congr 1
    omega

/-- What follows the bytes that are wanted is not looked at. -/
theorem continued_append {wanted : List (Nat × Nat)} {more : List UInt8}
    (h : more.length = wanted.length) (rest : List UInt8) (bits taken : Nat) :
    continued bits wanted (more ++ rest) taken = continued bits wanted more taken := by
  induction wanted generalizing more bits taken with
  | nil =>
    obtain rfl := List.length_eq_zero_iff.1 h
    simp [continued]
  | cons bounds wanted ih =>
    obtain ⟨b, more, rfl⟩ := List.exists_cons_of_length_eq_add_one h
    rw [List.cons_append, continued, continued, ih (by simpa using h)]

/-- Bytes that continue a character are as many as announced. -/
theorem exists_of_continued {wanted : List (Nat × Nat)} {bs : List UInt8} {bits taken n : Nat}
    (h : continued bits wanted bs taken = .ok n) :
    ∃ more rest, bs = more ++ rest ∧ more.length = wanted.length ∧
      continued bits wanted more taken = .ok n := by
  induction wanted generalizing bs bits taken with
  | nil => exact ⟨[], bs, rfl, rfl, by simpa [continued] using h⟩
  | cons bounds wanted ih =>
    cases bs with
    | nil => simp [continued] at h
    | cons b bs =>
      obtain ⟨hb, hrest⟩ := continued_cons_eq_ok.1 h
      obtain ⟨more, rest, rfl, hlength, hmore⟩ := ih hrest
      exact ⟨b :: more, rest, rfl, by simp [hlength], continued_cons_eq_ok.2 ⟨hb, hmore⟩⟩

/-- A sequence that is admitted is decoded, and then what follows it. -/
theorem decodeFrom_of_spells {b : UInt8} {more : List UInt8} {n : Nat} (h : Spells b more n)
    (position : Nat) (rest : List UInt8) :
    decodeFrom 0 position (b :: more ++ rest) =
      (decodeFrom 0 (position + 1 + more.length) rest).map (Char.ofNat n :: ·) := by
  obtain ⟨bits, wanted, hstart, hlength, hmore⟩ := h
  rw [List.cons_append, decodeFrom, hstart]
  dsimp only
  rw [continued_append hlength, hmore]
  dsimp only
  rw [← hlength, decodeFrom_skip]

/-- A start that is decoded is that of a sequence that is admitted. -/
theorem exists_of_decodeFrom {b : UInt8} {bs : List UInt8} {position : Nat} {cs : List Char}
    (h : decodeFrom 0 position (b :: bs) = .ok cs) :
    ∃ more rest n later, bs = more ++ rest ∧ Spells b more n ∧ cs = Char.ofNat n :: later ∧
      decodeFrom 0 (position + 1 + more.length) rest = .ok later := by
  rw [decodeFrom] at h
  cases hstart : announced? b with
  | none => simp [hstart] at h
  | some announced =>
    obtain ⟨bits, wanted⟩ := announced
    cases hcontinued : continued bits wanted bs 1 with
    | error e => simp [hstart, hcontinued] at h
    | ok n =>
      obtain ⟨more, rest, rfl, hlength, hmore⟩ := exists_of_continued hcontinued
      simp only [hstart, hcontinued] at h
      rw [← hlength, decodeFrom_skip] at h
      cases hlater : decodeFrom 0 (position + 1 + more.length) rest with
      | error e =>
        rw [hlater] at h
        cases h
      | ok later =>
        rw [hlater] at h
        exact ⟨more, rest, n, later, rfl, ⟨bits, wanted, hstart, hlength, hmore⟩,
          (Except.ok.inj h).symm, hlater⟩

theorem decodeFrom_encode (cs : List Char) (position : Nat) :
    decodeFrom 0 position (encode cs) = .ok cs := by
  induction cs generalizing position with
  | nil => rfl
  | cons c cs ih =>
    obtain ⟨b, more, hencode, hspells⟩ := spells_of_char c
    rw [encode, List.flatMap_cons, hencode, decodeFrom_of_spells hspells]
    change (decodeFrom 0 _ (encode cs)).map _ = _
    rw [ih, Char.ofNat_toNat]
    rfl

theorem encode_of_decodeFrom {bytes : List UInt8} {position : Nat} {cs : List Char}
    (h : decodeFrom 0 position bytes = .ok cs) : bytes = encode cs := by
  induction hsize : bytes.length using Nat.strongRecOn generalizing bytes position cs with
  | _ size ih =>
    cases bytes with
    | nil =>
      rw [decodeFrom] at h
      rw [← Except.ok.inj h]
      rfl
    | cons b bs =>
      obtain ⟨more, rest, n, later, rfl, hspells, rfl, hlater⟩ := exists_of_decodeFrom h
      have hshorter : rest.length < size := by
        simp only [List.length_cons, List.length_append] at hsize
        omega
      rw [ih rest.length hshorter hlater rfl, encode, encode, List.flatMap_cons,
        (encode_of_spells hspells).2]
      rfl

/-- **Bytes are decoded exactly if they are the encoding of a text**, which is the one they decode to. -/
theorem decode_eq_ok_iff {bytes : List UInt8} {cs : List Char} :
    decode bytes = .ok cs ↔ bytes = encode cs := by
  constructor
  · exact encode_of_decodeFrom
  · rintro rfl
    exact decodeFrom_encode cs 0

end RowAlert.Text.Utf8
