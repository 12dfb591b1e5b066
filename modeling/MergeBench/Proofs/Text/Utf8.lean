import MergeBench.Text.Utf8

namespace MergeBench.Text

variable {a b c d : UInt8} {rest : Bytes}

/-! ### Sequences of one to four octets -/

theorem isContinuation_iff : isContinuation a = true ↔ 0x80 ≤ a.toNat ∧ a.toNat < 0xC0 := by
  simp [isContinuation, UInt8.le_iff_toNat_le, UInt8.lt_iff_toNat_lt]

theorem secondFits_iff : secondFits a b = true ↔
    (0x80 ≤ b.toNat ∧ b.toNat < 0xC0) ∧ ¬(a.toNat = 0xE0 ∧ b.toNat < 0xA0) ∧
      ¬(a.toNat = 0xED ∧ 0xA0 ≤ b.toNat) ∧ ¬(a.toNat = 0xF0 ∧ b.toNat < 0x90) ∧
      ¬(a.toNat = 0xF4 ∧ 0x90 ≤ b.toNat) := by
  simp [secondFits, isContinuation, UInt8.le_iff_toNat_le, UInt8.lt_iff_toNat_lt, ← UInt8.toNat_inj]
  omega

theorem decodeFrom_one (ha : a.toNat < 0x80) (position : Nat) :
    decodeFrom position (a :: rest) =
      (decodeFrom (position + 1) rest).map (Char.ofNat a.toNat :: ·) := by
  have hascii : a < 0x80 := UInt8.lt_iff_toNat_lt.mpr ha
  rw [decodeFrom.eq_def]
  dsimp only
  rw [if_pos hascii]
  rfl

/-- The first of several octets says how many there are. -/
theorem not_startByte (ha : 0xC2 ≤ a.toNat) (ha' : a.toNat < 0xF5) :
    ¬a < 0x80 ∧ (decide (a < 0xC2) || decide (0xF5 ≤ a)) = false := by
  simp only [UInt8.lt_iff_toNat_lt, UInt8.le_iff_toNat_le, Bool.or_eq_false_iff, decide_eq_false_iff_not]
  simp only [UInt8.reduceToNat]
  omega

theorem decodeFrom_two (ha : 0xC2 ≤ a.toNat) (ha' : a.toNat < 0xE0) (hb : secondFits a b = true)
    (position : Nat) :
    decodeFrom position (a :: b :: rest) =
      (decodeFrom (position + 2) rest).map (Char.ofNat (a.toNat % 32 * 64 + low6 b) :: ·) := by
  obtain ⟨hascii, hstart⟩ := not_startByte ha (by omega)
  have htwo : a < 0xE0 := UInt8.lt_iff_toNat_lt.mpr ha'
  rw [decodeFrom.eq_def]
  simp only [hascii, hstart, hb, htwo, Bool.not_true, Bool.false_eq_true, ↓reduceIte]
  rfl

theorem decodeFrom_three (ha : 0xE0 ≤ a.toNat) (ha' : a.toNat < 0xF0) (hb : secondFits a b = true)
    (hc : isContinuation c = true) (position : Nat) :
    decodeFrom position (a :: b :: c :: rest) =
      (decodeFrom (position + 3) rest).map
        (Char.ofNat ((a.toNat % 16 * 64 + low6 b) * 64 + low6 c) :: ·) := by
  obtain ⟨hascii, hstart⟩ := not_startByte (a := a) (by omega) (by omega)
  have htwo : ¬a < 0xE0 := by simpa [UInt8.lt_iff_toNat_lt] using ha
  have hthree : a < 0xF0 := UInt8.lt_iff_toNat_lt.mpr ha'
  rw [decodeFrom.eq_def]
  simp only [hascii, hstart, hb, hc, htwo, hthree, Bool.not_true, Bool.false_eq_true, ↓reduceIte]
  rfl

theorem decodeFrom_four (ha : 0xF0 ≤ a.toNat) (ha' : a.toNat < 0xF5) (hb : secondFits a b = true)
    (hc : isContinuation c = true) (hd : isContinuation d = true) (position : Nat) :
    decodeFrom position (a :: b :: c :: d :: rest) =
      (decodeFrom (position + 4) rest).map
        (Char.ofNat (((a.toNat % 8 * 64 + low6 b) * 64 + low6 c) * 64 + low6 d) :: ·) := by
  obtain ⟨hascii, hstart⟩ := not_startByte (a := a) (by omega) (by omega)
  have htwo : ¬a < 0xE0 := by
    simp only [UInt8.lt_iff_toNat_lt, UInt8.reduceToNat]
    omega
  have hthree : ¬a < 0xF0 := by simpa [UInt8.lt_iff_toNat_lt] using ha
  rw [decodeFrom.eq_def]
  simp only [hascii, hstart, hb, hc, hd, htwo, hthree, Bool.not_true, Bool.false_eq_true, ↓reduceIte]
  rfl

/-! ### Characters and texts -/

/-- No character is a surrogate or beyond the last code point. -/
theorem toNat_cases (x : Char) :
    x.toNat < 0xD800 ∨ (0xDFFF < x.toNat ∧ x.toNat < 0x110000) := by
  have h := x.valid
  simpa [UInt32.isValidChar, Nat.isValidChar] using h

theorem toNat_ofNat_of_lt {n : Nat} (h : n < 256) : (UInt8.ofNat n).toNat = n := by
  simpa using h

theorem decodeFrom_utf8EncodeChar (x : Char) (rest : Bytes) (position : Nat) :
    ∃ next, decodeFrom position (String.utf8EncodeChar x ++ rest) =
      (decodeFrom next rest).map (x :: ·) := by
  have hx := toNat_cases x
  have hchar : x = Char.ofNat x.toNat := (Char.ofNat_toNat x).symm
  unfold String.utf8EncodeChar
  dsimp only
  rw [show x.val.toNat = x.toNat from rfl]
  generalize x.toNat = n at hx hchar
  subst hchar
  split
  · refine ⟨position + 1, ?_⟩
    have ha := toNat_ofNat_of_lt (n := n) (by omega)
    rw [List.singleton_append, decodeFrom_one (by omega), ha]
  · split
    · refine ⟨position + 2, ?_⟩
      have ha := toNat_ofNat_of_lt (n := n / 64 % 32 + 192) (by omega)
      have hb := toNat_ofNat_of_lt (n := n % 64 + 128) (by omega)
      rw [List.cons_append, List.singleton_append, decodeFrom_two (by omega) (by omega)
        (secondFits_iff.mpr (by omega)), low6, ha, hb,
        show (n / 64 % 32 + 192) % 32 * 64 + (n % 64 + 128) % 64 = n by omega]
    · split
      · refine ⟨position + 3, ?_⟩
        have ha := toNat_ofNat_of_lt (n := n / 4096 % 16 + 224) (by omega)
        have hb := toNat_ofNat_of_lt (n := n / 64 % 64 + 128) (by omega)
        have hc := toNat_ofNat_of_lt (n := n % 64 + 128) (by omega)
        simp only [List.cons_append, List.nil_append]
        rw [decodeFrom_three (by omega) (by omega) (secondFits_iff.mpr (by omega))
          (isContinuation_iff.mpr (by omega)), low6, low6, ha, hb, hc,
          show ((n / 4096 % 16 + 224) % 16 * 64 + (n / 64 % 64 + 128) % 64) * 64 +
            (n % 64 + 128) % 64 = n by omega]
      · refine ⟨position + 4, ?_⟩
        have ha := toNat_ofNat_of_lt (n := n / 262144 % 8 + 240) (by omega)
        have hb := toNat_ofNat_of_lt (n := n / 4096 % 64 + 128) (by omega)
        have hc := toNat_ofNat_of_lt (n := n / 64 % 64 + 128) (by omega)
        have hd := toNat_ofNat_of_lt (n := n % 64 + 128) (by omega)
        simp only [List.cons_append, List.nil_append]
        rw [decodeFrom_four (by omega) (by omega) (secondFits_iff.mpr (by omega))
          (isContinuation_iff.mpr (by omega)) (isContinuation_iff.mpr (by omega)), low6, low6, low6,
          ha, hb, hc, hd,
          show (((n / 262144 % 8 + 240) % 8 * 64 + (n / 4096 % 64 + 128) % 64) * 64 +
            (n / 64 % 64 + 128) % 64) * 64 + (n % 64 + 128) % 64 = n by omega]

theorem decodeFrom_flatMap (cs : List Char) (position : Nat) :
    decodeFrom position (cs.flatMap String.utf8EncodeChar) = .ok cs := by
  induction cs generalizing position with
  | nil => rfl
  | cons x cs ih =>
    obtain ⟨next, hnext⟩ := decodeFrom_utf8EncodeChar x (cs.flatMap String.utf8EncodeChar) position
    rw [List.flatMap_cons, hnext, ih]
    rfl

theorem unifyNewlines_of_not_mem {cs : List Char} (h : '\r' ∉ cs) : unifyNewlines cs = cs := by
  induction cs with
  | nil => rfl
  | cons x cs ih =>
    rw [List.mem_cons, not_or] at h
    rw [unifyNewlines]
    · rw [ih h.2]
    · rintro rest rfl
      exact absurd rfl h.1
    · rintro rfl
      exact h.1 rfl

theorem decodeText_encode {s : String} (h : '\r' ∉ s.toList) : decodeText (encode s) = .ok s := by
  rw [decodeText, encode, decodeFrom_flatMap]
  simp [Except.map, unifyNewlines_of_not_mem h]

end MergeBench.Text
