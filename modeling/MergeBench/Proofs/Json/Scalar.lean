import Mathlib.Tactic.SplitIfs
import MergeBench.Json.Printer
import MergeBench.Json.Reader
import MergeBench.Proofs.Number.Integer

namespace MergeBench.Json

variable {rest : List Char}

/-! ### Strings -/

theorem hexFour?_append {cs : List Char} {n : Nat} (hlength : cs.length = 4)
    (h : hexFour? cs = some (n, [])) (rest : List Char) :
    hexFour? (cs ++ rest) = some (n, rest) := by
  match cs, hlength with
  | [a, b, c, d], _ =>
    simp only [hexFour?, List.cons_append, List.nil_append] at h ⊢
    cases hdigits : [a, b, c, d].mapM hexValue? with
    | none => simp [hdigits] at h
    | some digits => simpa [hdigits] using h

/-- The control characters are numbered as they are read. -/
theorem hexFour?_hexDigitsOf : ∀ n < 32, hexFour? (Text.hexDigitsOf 4 n) = some (n, []) := by
  decide +kernel

theorem readUnit_hexDigitsOf {c : Char} (hc : c.toNat < 32) (hrest : rest ≠ []) :
    readUnit (Text.hexDigitsOf 4 c.toNat ++ rest) = .ok (.char c, rest) := by
  have hlength := Text.hexDigitsOf_length 4 c.toNat
  have hlong : ¬((Text.hexDigitsOf 4 c.toNat ++ rest).take 5).length < 5 := by
    have := List.length_pos_iff.mpr hrest
    simp [hlength]
    omega
  have hchar : Text.CodePoint.ofNumber c.toNat = .char c := by
    have hhigh : Text.isHighHalf c.toNat = false := by
      simp [Text.isHighHalf]
      omega
    have hlow : Text.isLowHalf c.toNat = false := by
      simp [Text.isLowHalf]
      omega
    rw [Text.CodePoint.ofNumber, hhigh, hlow, Char.ofNat_toNat]
    rfl
  have hhigh : Text.isHighHalf c.toNat = false := by
    simp [Text.isHighHalf]
    omega
  unfold readUnit
  rw [if_neg hlong, hexFour?_append hlength (hexFour?_hexDigitsOf c.toNat hc)]
  simp only [hhigh, hchar, Bool.false_and, Bool.false_eq_true, ↓reduceIte]
  split <;> rfl

/-- One more character in front of what is read. -/
def precede (c : Char) (r : List Text.CodePoint × List Char) : List Text.CodePoint × List Char :=
  (.char c :: r.1, r.2)

section

variable {c mark : Char} (start fuel : Nat)

theorem readString_plain (hc : ¬c.toNat < 32) (hquote : c ≠ '"') (hescape : c ≠ '\\') :
    readString start (fuel + 1) (c :: rest) = (readString start fuel rest).map (precede c) := by
  rw [readString, if_neg hc]
  · cases readString start fuel rest <;> rfl
  · exact hquote
  · exact hescape

theorem readString_escaped (hmark : mark ≠ 'u') (hc : escapedChar? mark = some c) :
    readString start (fuel + 1) ('\\' :: mark :: rest) =
      (readString start fuel rest).map (precede c) := by
  simp only [readString, hc]
  cases readString start fuel rest <;> rfl

theorem readString_numbered (hc : c.toNat < 32) (hrest : rest ≠ []) :
    readString start (fuel + 1) ('\\' :: 'u' :: (Text.hexDigitsOf 4 c.toNat ++ rest)) =
      (readString start fuel rest).map (precede c) := by
  simp only [readString, readUnit_hexDigitsOf hc hrest, bind, Except.bind]
  cases readString start fuel rest <;> rfl

theorem eq_of_toNat_eq {c d : Char} (h : c.toNat = d.toNat) : c = d := by
  rw [← Char.ofNat_toNat c, h, Char.ofNat_toNat]

theorem readString_escapeChar (c : Char) (hrest : rest ≠ []) :
    readString start (fuel + 1) (escapeChar c ++ rest) =
      (readString start fuel rest).map (precede c) := by
  unfold escapeChar
  simp only [beq_iff_eq]
  split_ifs with hquote hescape hn hr ht hf hb hcontrol
  · subst hquote
    exact readString_escaped start fuel (by decide) rfl
  · subst hescape
    exact readString_escaped start fuel (by decide) rfl
  · subst hn
    exact readString_escaped start fuel (by decide) rfl
  · subst hr
    exact readString_escaped start fuel (by decide) rfl
  · subst ht
    exact readString_escaped start fuel (by decide) rfl
  · obtain rfl : c = '\x0c' := eq_of_toNat_eq hf
    exact readString_escaped start fuel (by decide) rfl
  · obtain rfl : c = '\x08' := eq_of_toNat_eq hb
    exact readString_escaped start fuel (by decide) rfl
  · exact readString_numbered start fuel hcontrol hrest
  · exact readString_plain start fuel hcontrol hquote hescape

end

theorem readString_stringChars (start : Nat) (cs rest : List Char) {fuel : Nat}
    (hfuel : cs.length < fuel) :
    readString start fuel (cs.flatMap escapeChar ++ '"' :: rest) = .ok (cs.map .char, rest) := by
  induction cs generalizing fuel with
  | nil =>
    obtain ⟨fuel, rfl⟩ : ∃ k, fuel = k + 1 := ⟨fuel - 1, by simp at hfuel; omega⟩
    rfl
  | cons c cs ih =>
    obtain ⟨fuel, rfl⟩ : ∃ k, fuel = k + 1 := ⟨fuel - 1, by omega⟩
    rw [List.flatMap_cons, List.append_assoc, readString_escapeChar start fuel c (by simp),
      ih (by simpa using hfuel)]
    rfl

theorem length_le_length_flatMap (cs : List Char) : cs.length ≤ (cs.flatMap escapeChar).length := by
  induction cs with
  | nil => simp
  | cons c cs ih =>
    have hpos : 0 < (escapeChar c).length := by
      unfold escapeChar
      split_ifs <;> simp
    simp only [List.flatMap_cons, List.length_append, List.length_cons]
    omega

/-- No escape holds a carriage return, not even that of the carriage return. -/
theorem not_mem_hexDigitsOf : ∀ n < 32, '\r' ∉ Text.hexDigitsOf 4 n := by
  decide +kernel

theorem not_mem_escapeChar (c : Char) : '\r' ∉ escapeChar c := by
  by_cases hr : c = '\r'
  · subst hr
    decide
  by_cases hcontrol : c.toNat < 32
  · have hdigits := not_mem_hexDigitsOf c.toNat hcontrol
    unfold escapeChar
    split_ifs <;> simp [hdigits]
  · unfold escapeChar
    split_ifs <;> simp [Ne.symm hr]

theorem not_mem_stringChars (cs : List Char) : '\r' ∉ stringChars cs := by
  simp [stringChars, not_mem_escapeChar]

/-! ### Words and numbers -/

/-- What may stand behind a value: a comma, a line end or nothing. -/
def Follows (rest : List Char) : Prop :=
  ∀ c, rest.head? = some c → c = ',' ∨ c = '\n'

theorem isAsciiDigit_of_follows {c : Char} (h : c = ',' ∨ c = '\n') :
    Number.isAsciiDigit c = false := by
  rcases h with rfl | rfl <;> decide

theorem takeWhile_digits {digits : List Char} (hdigits : ∀ c ∈ digits, Number.isAsciiDigit c = true)
    (hrest : Follows rest) : (digits ++ rest).takeWhile Number.isAsciiDigit = digits := by
  rw [List.takeWhile_append_of_pos hdigits]
  cases rest with
  | nil => simp
  | cons c rest =>
    rw [List.takeWhile_cons_of_neg, List.append_nil]
    simp [isAsciiDigit_of_follows (hrest c rfl)]

theorem wholePart?_toDigits (n : Nat) (hrest : Follows rest) :
    wholePart? (Nat.toDigits 10 n ++ rest) = some (Nat.toDigits 10 n, rest) := by
  by_cases hzero : n = 0
  · subst hzero
    rfl
  · have hdigits : ∀ c ∈ Nat.toDigits 10 n, Number.isAsciiDigit c = true :=
      fun c hc => Number.isAsciiDigit_of_mem_toDigits hc
    have htake := takeWhile_digits hdigits hrest
    unfold wholePart?
    split
    · next cs hcs =>
      obtain ⟨c, tail, hhead⟩ := List.exists_cons_of_ne_nil (@Nat.toDigits_ne_nil n 10)
      rw [hhead, List.cons_append, List.cons.injEq] at hcs
      exact absurd (Number.eq_zero_of_head? (by rw [hhead, hcs.1]; rfl)) hzero
    · rw [htake]
      simp [Nat.toDigits_ne_nil]

theorem fractionPart_of_follows (hrest : Follows rest) : fractionPart rest = ([], rest) := by
  unfold fractionPart
  split
  · have := hrest '.' rfl
    simp at this
  · rfl

theorem exponentPart_of_follows (hrest : Follows rest) : exponentPart rest = ([], rest) := by
  cases rest with
  | nil => rfl
  | cons c rest => rcases hrest c rfl with rfl | rfl <;> rfl

theorem writeInteger_of_integerChars {i : Int} {cs : List Char} (h : integerChars i = .ok cs) :
    ∃ s, Number.writeInteger i = .ok s ∧ cs = s.toList := by
  unfold integerChars at h
  cases hwrite : Number.writeInteger i with
  | error e =>
    rw [hwrite] at h
    cases h
  | ok s =>
    rw [hwrite] at h
    exact ⟨s, rfl, (Except.ok.inj h).symm⟩

/-- The text of a number is one digit or more, behind a sign if the number is negative. -/
theorem integerChars_cases {i : Int} {cs : List Char} (h : integerChars i = .ok cs) :
    ∃ sign c digits, cs = sign ++ c :: digits ∧ (sign = [] ∨ sign = ['-']) ∧
      ∀ d ∈ c :: digits, Number.isAsciiDigit d = true := by
  obtain ⟨s, hwrite, rfl⟩ := writeInteger_of_integerChars h
  obtain ⟨-, rfl⟩ := Number.eq_of_writeInteger hwrite
  obtain ⟨c, digits, hdigits⟩ := List.exists_cons_of_ne_nil (@Nat.toDigits_ne_nil i.natAbs 10)
  have hall : ∀ d ∈ c :: digits, Number.isAsciiDigit d = true := fun d hd =>
    Number.isAsciiDigit_of_mem_toDigits (by rw [hdigits]; exact hd)
  rw [String.toList_ofList, hdigits]
  by_cases hnegative : i < 0
  · exact ⟨['-'], c, digits, by rw [if_pos hnegative]; rfl, .inr rfl, hall⟩
  · exact ⟨[], c, digits, by rw [if_neg hnegative]; rfl, .inl rfl, hall⟩

def isNumeral (c : Char) : Bool :=
  c == '-' || Number.isAsciiDigit c

theorem ne_of_isNumeral {c d : Char} (hc : isNumeral c = true) (hd : isNumeral d = false) : c ≠ d := by
  rintro rfl
  rw [hc] at hd
  cases hd

theorem isNumeral_of_mem {sign digits : List Char} (hsign : sign = [] ∨ sign = ['-'])
    (hdigits : ∀ d ∈ digits, Number.isAsciiDigit d = true) {c : Char} (h : c ∈ sign ++ digits) :
    isNumeral c = true := by
  rcases List.mem_append.mp h with h | h
  · rcases hsign with rfl | rfl <;> simp_all [isNumeral]
  · simp [isNumeral, hdigits c h]

theorem readWord?_of_digit {c : Char} (h : Number.isAsciiDigit c = true) {sign : List Char}
    (hsign : sign = [] ∨ sign = ['-']) (rest : List Char) :
    readWord? (sign ++ c :: rest) = none := by
  have hne {d : Char} (hd : Number.isAsciiDigit d = false) : d ≠ c := by
    rintro rfl
    rw [h] at hd
    cases hd
  have hwords : 'n' ≠ c ∧ 't' ≠ c ∧ 'f' ≠ c ∧ 'N' ≠ c ∧ 'I' ≠ c ∧ '-' ≠ c :=
    ⟨hne (by decide), hne (by decide), hne (by decide), hne (by decide), hne (by decide),
      hne (by decide)⟩
  rw [readWord?, Option.map_eq_none_iff, List.find?_eq_none]
  rcases hsign with rfl | rfl <;> simp [wordValues, hwords]

theorem readNumber_integerChars {i : Int} {cs : List Char} (h : integerChars i = .ok cs)
    (hrest : Follows rest) : readNumber (cs ++ rest) = .ok (.int i, rest) := by
  obtain ⟨s, hwrite, rfl⟩ := writeInteger_of_integerChars h
  have hread := Number.readInteger_writeInteger hwrite
  obtain ⟨-, rfl⟩ := Number.eq_of_writeInteger hwrite
  rw [String.toList_ofList]
  unfold readNumber
  by_cases hnegative : i < 0
  · rw [if_pos hnegative] at hread ⊢
    simp only [List.cons_append, wholePart?_toDigits i.natAbs hrest, fractionPart_of_follows hrest,
      exponentPart_of_follows hrest, List.isEmpty_nil, Bool.and_self, ↓reduceIte, hread]
  · rw [if_neg hnegative] at hread ⊢
    obtain ⟨c, tail, hdigits⟩ := List.exists_cons_of_ne_nil (@Nat.toDigits_ne_nil i.natAbs 10)
    have hc : Number.isAsciiDigit c = true :=
      Number.isAsciiDigit_of_mem_toDigits (by rw [hdigits]; exact List.mem_cons_self)
    have hwhole := wholePart?_toDigits i.natAbs hrest
    rw [hdigits, List.cons_append] at hwhole ⊢
    rw [hdigits] at hread
    split
    next negative body hsign =>
    split at hsign
    · next h =>
      cases h
      contradiction
    · cases hsign
      simp only [hwhole, fractionPart_of_follows hrest, exponentPart_of_follows hrest,
        List.isEmpty_nil, Bool.and_self, ↓reduceIte, Bool.false_eq_true, hread]

end MergeBench.Json
