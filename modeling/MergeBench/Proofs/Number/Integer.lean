import MergeBench.Number.Decimal

namespace MergeBench.Number

variable {n : Nat} {cs : List Char}

theorem isAsciiDigit_of_mem_toDigits {c : Char} (h : c ∈ Nat.toDigits 10 n) :
    isAsciiDigit c = true :=
  Nat.isDigit_of_mem_toDigits (by decide) (by decide) h

theorem toNat_of_isAsciiDigit {c : Char} (h : isAsciiDigit c = true) : 48 ≤ c.toNat ∧ c.toNat ≤ 57 := by
  simpa [isAsciiDigit, Char.le_def, UInt32.le_iff_toNat_le] using h

theorem eq_zero_of_digitChar : ∀ n < 10, Nat.digitChar n = '0' → n = 0 := by
  decide

/-- Only zero begins with a zero. -/
theorem eq_zero_of_head? (h : (Nat.toDigits 10 n).head? = some '0') : n = 0 := by
  induction n using Nat.strongRecOn with
  | ind n ih =>
    by_cases hsmall : n < 10
    · rw [Nat.toDigits_of_lt_base hsmall, List.head?_singleton, Option.some_inj] at h
      exact eq_zero_of_digitChar n hsmall h
    · obtain ⟨c, cs, hcs⟩ := List.exists_cons_of_ne_nil (@Nat.toDigits_ne_nil (n / 10) 10)
      rw [Nat.toDigits_of_base_le (by decide) (by omega), hcs] at h
      have hzero := ih (n / 10) (by omega) (by rw [hcs]; exact h)
      omega

/-! ### Reading the digits of a number -/

theorem letterDigit?_of_isAsciiDigit {c : Char} (h : isAsciiDigit c = true) :
    letterDigit? c = some (c.toNat - 48) := by
  have hdigit : ('0' ≤ c && c ≤ '9') = true := h
  rw [letterDigit?, if_pos hdigit]
  rfl

theorem digitBelow?_of_isAsciiDigit {c : Char} (h : isAsciiDigit c = true) :
    digitBelow? 10 c = some (c.toNat - 48) := by
  have hc := toNat_of_isAsciiDigit h
  rw [digitBelow?, letterDigit?_of_isAsciiDigit h, Option.filter_some, if_pos]
  exact decide_eq_true (by omega)

theorem mapM_digitBelow? (h : ∀ c ∈ cs, isAsciiDigit c = true) :
    cs.mapM (digitBelow? 10) = some (digitsOf cs) := by
  induction cs with
  | nil => rfl
  | cons c cs ih =>
    rw [List.forall_mem_cons] at h
    rw [List.mapM_cons, digitBelow?_of_isAsciiDigit h.1, ih h.2]
    rfl

/-- Digits without an underscore are one group. -/
theorem groupedDigits?_of_digits (h : ∀ c ∈ cs, isAsciiDigit c = true) (hne : cs ≠ []) :
    groupedDigits? 10 cs = some (digitsOf cs) := by
  have hsplit : cs.splitOn '_' = [cs] := by
    rw [List.splitOn_eq_singleton]
    intro hmem
    have := h '_' hmem
    contradiction
  rw [groupedDigits?, hsplit]
  simp [hne, mapM_digitBelow? h]

theorem ofDigits_digitsOf (cs : List Char) : ofDigits 10 (digitsOf cs) = Nat.ofDigitChars 10 cs 0 := by
  rw [ofDigits, digitsOf, List.foldl_map, Nat.ofDigitChars]
  congr 1
  funext n c
  rw [Nat.mul_comm]

theorem dropBaseMark_ten (cs : List Char) : dropBaseMark 10 cs = cs := by
  unfold dropBaseMark baseMarks
  split <;> simp

theorem plainChars_numeral (h : ∀ c ∈ cs, isAsciiDigit c = true ∨ c = '-') : plainChars cs = cs := by
  have hascii : cs.all (·.toNat < 128) = true := by
    rw [List.all_eq_true]
    intro c hc
    rcases h c hc with hdigit | rfl
    · have := toNat_of_isAsciiDigit hdigit
      exact decide_eq_true (by omega)
    · decide
  rw [plainChars, if_pos hascii]

theorem not_blank_of_numeral {c : Char} (h : isAsciiDigit c = true ∨ c = '-') :
    Text.isAsciiBlank c = false := by
  rcases h with h | rfl
  · have hc := toNat_of_isAsciiDigit h
    have hspace : c ≠ ' ' := by
      rintro rfl
      contradiction
    simp [Text.isAsciiBlank, hspace]
    omega
  · decide

theorem stripAscii_numeral (h : ∀ c ∈ cs, isAsciiDigit c = true ∨ c = '-') : stripAscii cs = cs := by
  have hkeep (ds : List Char) (hds : ∀ c ∈ ds, isAsciiDigit c = true ∨ c = '-') :
      ds.dropWhile Text.isAsciiBlank = ds := by
    cases ds with
    | nil => rfl
    | cons d ds =>
      rw [List.dropWhile_cons_of_neg]
      simp [not_blank_of_numeral (hds d List.mem_cons_self)]
  rw [stripAscii, hkeep cs h, hkeep cs.reverse (by simpa using h), List.reverse_reverse]

theorem takeSign_digits (h : ∀ c ∈ cs, isAsciiDigit c = true) : takeSign cs = (false, cs) := by
  unfold takeSign
  split
  · have := h '-' List.mem_cons_self
    contradiction
  · have := h '+' List.mem_cons_self
    contradiction
  · rfl

theorem eq_of_writeInteger {i : Int} {s : String} (h : writeInteger i = .ok s) :
    ¬digitLimit < (Nat.toDigits 10 i.natAbs).length ∧
      s = String.ofList
        (if i < 0 then '-' :: Nat.toDigits 10 i.natAbs else Nat.toDigits 10 i.natAbs) := by
  rw [writeInteger] at h
  by_cases hlimit : digitLimit < (Nat.toDigits 10 i.natAbs).length
  · rw [if_pos hlimit] at h
    cases h
  · rw [if_neg hlimit] at h
    exact ⟨hlimit, (Except.ok.inj h).symm⟩

theorem readInteger_writeInteger {i : Int} {s : String} (h : writeInteger i = .ok s) :
    readInteger 10 s = .ok i := by
  have hdigits : ∀ c ∈ Nat.toDigits 10 i.natAbs, isAsciiDigit c = true :=
    fun c hc => isAsciiDigit_of_mem_toDigits hc
  have hnumeral : ∀ c ∈ Nat.toDigits 10 i.natAbs, isAsciiDigit c = true ∨ c = '-' :=
    fun c hc => .inl (hdigits c hc)
  have hsigned : ∀ c ∈ '-' :: Nat.toDigits 10 i.natAbs, isAsciiDigit c = true ∨ c = '-' := by
    rw [List.forall_mem_cons]
    exact ⟨.inr rfl, hnumeral⟩
  have hvalue := @Nat.ofDigitChars_ten_toDigits i.natAbs
  obtain ⟨hlimit, rfl⟩ := eq_of_writeInteger h
  have hcount : (10 == 10 && decide (digitLimit < (digitsOf (Nat.toDigits 10 i.natAbs)).length)) =
      false := by
    simpa [digitsOf] using hlimit
  by_cases hnegative : i < 0
  · rw [if_pos hnegative, readInteger, String.toList_ofList, plainChars_numeral hsigned,
      stripAscii_numeral hsigned]
    simp only [takeSign, dropBaseMark_ten, groupedDigits?_of_digits hdigits Nat.toDigits_ne_nil,
      hcount, Bool.false_eq_true, ↓reduceIte, ofDigits_digitsOf, hvalue]
    congr 1
    omega
  · rw [if_neg hnegative, readInteger, String.toList_ofList, plainChars_numeral hnumeral,
      stripAscii_numeral hnumeral, takeSign_digits hdigits]
    simp only [dropBaseMark_ten, groupedDigits?_of_digits hdigits Nat.toDigits_ne_nil,
      hcount, Bool.false_eq_true, ↓reduceIte, ofDigits_digitsOf, hvalue]
    congr 1
    omega

end MergeBench.Number
