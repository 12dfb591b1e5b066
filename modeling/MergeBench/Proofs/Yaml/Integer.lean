import Mathlib.Data.List.DropRight
import MergeBench.Proofs.Number.Integer
import MergeBench.Yaml.Data

namespace MergeBench

namespace Number

variable {base : Nat} {cs : List Char} {c : Char}

theorem flatten_splitOn (join : Char) (cs : List Char) :
    (cs.splitOn join).flatten = cs.filter (· != join) := by
  induction cs with
  | nil => rfl
  | cons c cs ih =>
    rw [List.splitOn_cons_eq_if_modifyHead]
    by_cases hc : c = join
    · rw [if_pos (beq_iff_eq.mpr hc), List.flatten_cons, List.nil_append, ih,
        List.filter_cons_of_neg (by simp [hc])]
    · rw [if_neg (by simpa using hc), List.filter_cons_of_pos (by simpa using hc), ← ih]
      cases hsplit : cs.splitOn join with
      | nil => exact absurd hsplit (by simp)
      | cons first later => rfl

theorem mapM_eq_none {f : Char → Option Nat} (hc : c ∈ cs) (hf : f c = none) : cs.mapM f = none := by
  induction cs with
  | nil => cases hc
  | cons d cs ih =>
    rw [List.mapM_cons]
    rcases List.mem_cons.mp hc with rfl | hc
    · rw [hf]
      rfl
    · rw [ih hc]
      cases f d <;> rfl

theorem groupedDigits?_eq_none (hc : c ∈ cs) (hjoin : c ≠ '_') (hdigit : digitBelow? base c = none) :
    groupedDigits? base cs = none := by
  unfold groupedDigits?
  dsimp only
  split
  · rfl
  · refine mapM_eq_none ?_ hdigit
    rw [flatten_splitOn, List.mem_filter]
    exact ⟨hc, by simpa using hjoin⟩

theorem mem_dropWhile {p : Char → Bool} (hc : c ∈ cs) (hp : p c = false) : c ∈ cs.dropWhile p := by
  have hsplit : c ∈ cs.takeWhile p ++ cs.dropWhile p := by
    rwa [List.takeWhile_append_dropWhile]
  rcases List.mem_append.mp hsplit with htake | hdrop
  · rw [List.mem_takeWhile_imp htake] at hp
    cases hp
  · exact hdrop

theorem mem_rdropWhile {p : Char → Bool} (hc : c ∈ cs) (hp : p c = false) : c ∈ cs.rdropWhile p :=
  List.mem_reverse.mpr (mem_dropWhile (List.mem_reverse.mpr hc) hp)

theorem mem_plainChars (hc : c ∈ cs) (hascii : c.toNat < 127) : c ∈ plainChars cs := by
  unfold plainChars
  split
  · exact hc
  · exact List.mem_map.mpr ⟨c, hc, if_pos hascii⟩

theorem mem_takeSign (hc : c ∈ cs) (hminus : c ≠ '-') (hplus : c ≠ '+') : c ∈ (takeSign cs).2 := by
  unfold takeSign
  split
  · exact (List.mem_cons.mp hc).resolve_left hminus
  · exact (List.mem_cons.mp hc).resolve_left hplus
  · exact hc

theorem mem_stripAscii (hc : c ∈ cs) (hblank : Text.isAsciiBlank c = false) : c ∈ stripAscii cs :=
  mem_rdropWhile (mem_dropWhile hc hblank) hblank

theorem stripAscii_of_digit (h : isAsciiDigit c = true) (rest : List Char) :
    ∃ kept, stripAscii (c :: rest) = c :: kept := by
  have hblank : Text.isAsciiBlank c = false := not_blank_of_numeral (.inl h)
  have hstrip : stripAscii (c :: rest) = (c :: rest).rdropWhile Text.isAsciiBlank := by
    rw [stripAscii, List.dropWhile_cons_of_neg (by rw [hblank]; decide)]
    rfl
  have hstays : c ∈ stripAscii (c :: rest) := mem_stripAscii List.mem_cons_self hblank
  have hbegins := List.rdropWhile_prefix Text.isAsciiBlank (c :: rest)
  rw [← hstrip] at hbegins
  cases hfound : stripAscii (c :: rest) with
  | nil =>
    rw [hfound] at hstays
    cases hstays
  | cons d kept =>
    rw [hfound, List.cons_prefix_cons] at hbegins
    exact ⟨kept, by rw [hbegins.1]⟩

theorem takeSign_of_digit (h : isAsciiDigit c = true) (rest : List Char) :
    takeSign (c :: rest) = (false, c :: rest) := by
  unfold takeSign
  split
  next heq =>
    obtain ⟨rfl, -⟩ := List.cons.inj heq
    cases h
  next heq =>
    obtain ⟨rfl, -⟩ := List.cons.inj heq
    cases h
  next => rfl

theorem readInteger_of_mem {text : String} (hc : c ∈ (takeSign (stripAscii (plainChars text.toList))).2)
    (hjoin : c ≠ '_') (hdigit : digitBelow? 10 c = none) :
    readInteger 10 text = .error (.malformed 10 text) := by
  rw [readInteger]
  dsimp only
  rw [dropBaseMark_ten, groupedDigits?_eq_none hc hjoin hdigit]

theorem readInteger_of_point {text : String} (h : '.' ∈ text.toList) :
    readInteger 10 text = .error (.malformed 10 text) := by
  have hplain : '.' ∈ plainChars text.toList := mem_plainChars h (by decide)
  have hstrip : '.' ∈ stripAscii (plainChars text.toList) := mem_stripAscii hplain (by decide)
  exact readInteger_of_mem (mem_takeSign hstrip (by decide) (by decide)) (by decide) (by decide)

/-- A dash behind a digit is neither a sign nor a blank, so it stays where a digit should be. -/
theorem readInteger_of_dash {text : String} {first : Char} {before after : List Char}
    (hfirst : isAsciiDigit first = true) (h : text.toList = first :: (before ++ '-' :: after)) :
    readInteger 10 text = .error (.malformed 10 text) := by
  have hnat := toNat_of_isAsciiDigit hfirst
  obtain ⟨rest, hplain, hrest⟩ : ∃ rest, plainChars text.toList = first :: rest ∧ '-' ∈ rest := by
    unfold plainChars
    split
    · exact ⟨_, h, by simp⟩
    · rw [h, List.map_cons, if_pos (by omega)]
      refine ⟨_, rfl, List.mem_map.mpr ⟨'-', by simp, if_pos (by decide)⟩⟩
  obtain ⟨kept, hkept⟩ := stripAscii_of_digit hfirst rest
  have hdash : '-' ∈ first :: kept := by
    rw [← hkept]
    exact mem_stripAscii (List.mem_cons_of_mem _ hrest) (by decide)
  have hstays : '-' ∈ (takeSign (stripAscii (plainChars text.toList))).2 := by
    rwa [hplain, hkept, takeSign_of_digit hfirst]
  exact readInteger_of_mem hstays (by decide) (by decide)

end Number

namespace Yaml

/-! ### Scalars that are no integers -/

theorem Timestamp.digits?_eq_some {least most : Nat} {cs found rest : List Char}
    (h : Timestamp.digits? least most cs = some (found, rest)) :
    cs = found ++ rest ∧ least ≤ found.length ∧ ∀ c ∈ found, Number.isAsciiDigit c = true := by
  unfold Timestamp.digits? at h
  dsimp only at h
  split at h
  · cases h
  next hlength =>
    cases h
    refine ⟨?_, by omega, fun c hc => List.mem_takeWhile_imp hc⟩
    have hbegins := (List.takeWhile_prefix Number.isAsciiDigit (l := cs.take most)).trans
      (List.take_prefix most cs)
    exact (List.prefix_iff_eq_append.mp hbegins).symm

theorem Timestamp.mark?_eq_some {c : Char} {cs rest : List Char}
    (h : Timestamp.mark? c cs = some rest) : cs = c :: rest := by
  unfold Timestamp.mark? at h
  split at h
  · split at h
    next heq =>
      cases h
      rw [eq_of_beq heq]
    next => cases h
  · cases h

theorem Timestamp.exists_dash {text : String} {t : Timestamp} (h : Timestamp.read? text = some t) :
    ∃ first before after, Number.isAsciiDigit first = true ∧
      text.toList = first :: (before ++ '-' :: after) := by
  unfold Timestamp.read? at h
  simp only [Option.bind_eq_bind, Option.bind_eq_some_iff] at h
  obtain ⟨⟨year, cs⟩, hyear, rest, hmark, -⟩ := h
  obtain ⟨htext, hlength, hdigits⟩ := digits?_eq_some hyear
  obtain rfl := mark?_eq_some hmark
  cases year with
  | nil => cases hlength
  | cons first before => exact ⟨first, before, rest, hdigits first List.mem_cons_self, htext⟩

theorem eq_of_dropLineFeed {text word : String} (h : Tag.dropLineFeed text = word) :
    text = word ∨ text = word ++ "\n" := by
  unfold Tag.dropLineFeed at h
  dsimp only at h
  split at h
  next hlast =>
    right
    apply String.toList_inj.mp
    rw [String.toList_append, ← h, String.toList_ofList]
    exact (List.dropLast_append_getLast? '\n' (by simpa using hlast)).symm
  next => exact .inl h

theorem readInteger_of_word {text : String} (words : List String)
    (hwords : ∀ word ∈ words, (Number.readInteger 10 word).isOk = false ∧
      (Number.readInteger 10 (word ++ "\n")).isOk = false)
    (h : Tag.dropLineFeed text ∈ words) : (Number.readInteger 10 text).isOk = false := by
  obtain ⟨hplain, hended⟩ := hwords _ h
  rcases eq_of_dropLineFeed (rfl : Tag.dropLineFeed text = Tag.dropLineFeed text) with heq | heq
  · rw [heq]
    exact hplain
  · rw [heq]
    exact hended

theorem mem_of_mem_dropSign {c : Char} {cs : List Char} (h : c ∈ Tag.dropSign cs) : c ∈ cs := by
  unfold Tag.dropSign at h
  split at h
  · exact List.mem_cons_of_mem _ h
  · exact List.mem_cons_of_mem _ h
  · exact h

theorem point_of_isPlainFraction {cs : List Char} (h : Tag.isPlainFraction cs = true) : '.' ∈ cs := by
  unfold Tag.isPlainFraction at h
  dsimp only at h
  split at h
  next heq => exact List.mem_of_mem_drop (heq ▸ List.mem_cons_self)
  next => cases h

theorem point_of_isSexagesimalFraction {cs : List Char} (h : Tag.isSexagesimalFraction cs = true) :
    '.' ∈ cs := by
  unfold Tag.isSexagesimalFraction at h
  dsimp only at h
  split at h
  next heq _ => exact List.mem_of_mem_drop (heq ▸ List.mem_cons_self)
  next => cases h

theorem point_of_name {cs : List Char} {names : List String} (hnames : ∀ name ∈ names, '.' ∈ name.toList)
    (h : names.contains (String.ofList cs) = true) : '.' ∈ cs := by
  simpa using hnames _ (List.contains_iff_mem.mp h)

theorem point_of_isFloat {cs : List Char} (h : Tag.isFloat cs = true) : '.' ∈ cs := by
  simp only [Tag.isFloat, Bool.or_eq_true] at h
  rcases h with (((h | h) | h) | h) | h
  · exact mem_of_mem_dropSign (point_of_isPlainFraction h)
  · unfold Tag.isBareFraction at h
    split at h
    · exact List.mem_cons_self
    · cases h
  · exact mem_of_mem_dropSign (point_of_isSexagesimalFraction h)
  · exact mem_of_mem_dropSign (point_of_name (by decide) h)
  · exact point_of_name (by decide) h

/-- What YAML takes for neither an integer nor text is no integer in decimal either. -/
theorem readInteger_of_tag {text : String} (htag : Tag.ofScalar text ∉ [Tag.int, .text]) :
    (Number.readInteger 10 text).isOk = false := by
  unfold Tag.ofScalar at htag
  by_cases hempty : text = ""
  · rw [hempty]
    decide
  by_cases hfeed : text = "\n"
  · rw [hfeed]
    decide
  rw [if_neg (by simpa using hempty), if_neg (by simpa using hfeed)] at htag
  dsimp only at htag
  split at htag
  next htruth =>
    exact readInteger_of_word Tag.truthWords (by decide) (List.contains_iff_mem.mp htruth)
  split at htag
  next hfloat =>
    have hpoint : '.' ∈ text.toList := by
      rcases eq_of_dropLineFeed (rfl : Tag.dropLineFeed text = Tag.dropLineFeed text) with heq | heq
      · rw [heq]
        exact point_of_isFloat hfloat
      · rw [heq, String.toList_append]
        exact List.mem_append_left _ (point_of_isFloat hfloat)
    rw [Number.readInteger_of_point hpoint]
    rfl
  split at htag
  · exact absurd List.mem_cons_self htag
  split at htag
  next hmerge => exact readInteger_of_word ["<<"] (by decide) (by simpa using hmerge)
  split at htag
  next hnull => exact readInteger_of_word Tag.nullWords (by decide) (List.contains_iff_mem.mp hnull)
  split at htag
  next htime =>
    cases hread : Timestamp.read? text with
    | none =>
      rw [hread] at htime
      cases htime
    | some t =>
      obtain ⟨first, before, after, hfirst, htext⟩ := Timestamp.exists_dash hread
      rw [Number.readInteger_of_dash hfirst htext]
      rfl
  split at htag
  next hvalue => exact readInteger_of_word ["="] (by decide) (by simpa using hvalue)
  split at htag
  next hmark => exact readInteger_of_word ["!", "&", "*"] (by decide) (List.contains_iff_mem.mp hmark)
  · exact absurd (List.mem_cons_of_mem _ List.mem_cons_self) htag

/-! ### Numbers in decimal -/

/-- The digits of a number, no zero in front of others. -/
structure Digits (ds : List Char) : Prop where
  ne_nil : ds ≠ []
  digit : ∀ c ∈ ds, Number.isAsciiDigit c = true
  zero : ds.head? = some '0' → ds = ['0']

theorem digits_toDigits (n : Nat) : Digits (Nat.toDigits 10 n) where
  ne_nil := Nat.toDigits_ne_nil
  digit _ hc := Number.isAsciiDigit_of_mem_toDigits hc
  zero h := by
    rw [Number.eq_zero_of_head? h]
    rfl

section Digits

variable {ds : List Char} {negative : Bool}

/-- The digits with a minus sign in front of them, or alone. -/
def numeral (negative : Bool) (ds : List Char) : List Char :=
  if negative then '-' :: ds else ds

theorem exists_numeral {n : Int} {text : String} (h : Number.writeInteger n = .ok text) :
    ∃ negative, text.toList = numeral negative (Nat.toDigits 10 n.natAbs) ∧
      n = if negative then -(n.natAbs : Int) else n.natAbs := by
  obtain ⟨-, rfl⟩ := Number.eq_of_writeInteger h
  by_cases hnegative : n < 0
  · refine ⟨true, by rw [if_pos hnegative]; exact String.toList_ofList, ?_⟩
    simp only [↓reduceIte]
    omega
  · refine ⟨false, by rw [if_neg hnegative]; exact String.toList_ofList, ?_⟩
    simp only [Bool.false_eq_true, ↓reduceIte]
    omega

variable (h : Digits ds)

include h

theorem Digits.ne (c : Char) (hc : Number.isAsciiDigit c = false) : c ∉ ds := by
  intro hmem
  rw [h.digit c hmem] at hc
  cases hc

theorem Digits.exists_cons : ∃ first rest, ds = first :: rest ∧ Number.isAsciiDigit first = true := by
  cases ds with
  | nil => exact absurd rfl h.ne_nil
  | cons first rest => exact ⟨first, rest, rfl, h.digit first List.mem_cons_self⟩

theorem Digits.not_mem_numeral {c : Char} (hc : Number.isAsciiDigit c = false) (hsign : c ≠ '-') :
    c ∉ numeral negative ds := by
  have hmem := h.ne c hc
  cases negative with
  | true => simpa [numeral, hsign] using hmem
  | false => exact hmem

theorem Digits.dropSign_numeral : Tag.dropSign (numeral negative ds) = ds := by
  obtain ⟨first, rest, rfl, hfirst⟩ := h.exists_cons
  cases negative with
  | true => rfl
  | false =>
    unfold Tag.dropSign
    split
    next heq =>
      obtain ⟨rfl, -⟩ := List.cons.inj heq
      cases hfirst
    next heq =>
      obtain ⟨rfl, -⟩ := List.cons.inj heq
      cases hfirst
    next => rfl

theorem Digits.isFloat_numeral : Tag.isFloat (numeral negative ds) = false := by
  have hpoint : '.' ∉ numeral negative ds := h.not_mem_numeral rfl (by decide)
  rw [Bool.eq_false_iff]
  intro hfloat
  exact hpoint (point_of_isFloat hfloat)

theorem Digits.isInteger_numeral : Tag.isInteger (numeral negative ds) = true := by
  rw [Tag.isInteger, h.dropSign_numeral]
  obtain ⟨first, rest, rfl, hfirst⟩ := h.exists_cons
  by_cases hzero : first = '0'
  · subst hzero
    obtain ⟨-, rfl⟩ := List.cons.inj (h.zero rfl)
    rfl
  · have hrange := Number.toNat_of_isAsciiDigit hfirst
    have hpositive : first.toNat ≠ 48 := fun heq => hzero (Char.toNat_inj.mp heq)
    have hone : '1' ≤ first := by
      rw [Char.le_def, UInt32.le_iff_toNat_le]
      exact Nat.lt_of_le_of_ne hrange.1 (Ne.symm hpositive)
    have hnine : first ≤ '9' := by
      rw [Char.le_def, UInt32.le_iff_toNat_le]
      exact hrange.2
    have hjoin : rest.all Tag.isDigitOrJoin = true := by
      rw [List.all_eq_true]
      intro c hc
      rw [Tag.isDigitOrJoin, h.digit c (List.mem_cons_of_mem _ hc)]
      rfl
    split
    next heq => exact absurd (List.cons.inj heq).1 hzero
    next heq => exact absurd (List.cons.inj heq).1 hzero
    next heq => exact absurd (List.cons.inj heq).1 hzero
    next heq =>
      obtain ⟨rfl, rfl⟩ := List.cons.inj heq
      rw [decide_eq_true hone, decide_eq_true hnine, hjoin]
      rfl
    next heq => cases heq

theorem Digits.unsignedInteger_eq : unsignedInteger ds = readInteger 10 ds := by
  obtain ⟨first, rest, rfl, hfirst⟩ := h.exists_cons
  by_cases hzero : first = '0'
  · subst hzero
    obtain ⟨-, rfl⟩ := List.cons.inj (h.zero rfl)
    cbv
  · have hcolon : (first :: rest).contains ':' = false := by
      rw [List.contains_eq_mem, decide_eq_false_iff_not]
      exact h.ne ':' rfl
    unfold unsignedInteger
    split
    next heq => exact absurd (List.cons.inj heq).1 hzero
    next heq => exact absurd (List.cons.inj heq).1 hzero
    next heq => exact absurd (List.cons.inj heq).1 hzero
    next heq => exact absurd (List.cons.inj heq).1 hzero
    next heq => cases heq
    next => rw [hcolon, if_neg Bool.false_ne_true]

theorem Digits.signed_numeral :
    signed (fun n : Int => -n) unsignedInteger (numeral negative ds) =
      (readInteger 10 ds).map fun n => if negative then -n else n := by
  cases negative with
  | true =>
    rw [← h.unsignedInteger_eq]
    rfl
  | false =>
    have hpositive : signed (fun n : Int => -n) unsignedInteger ds = unsignedInteger ds := by
      obtain ⟨first, rest, rfl, hfirst⟩ := h.exists_cons
      unfold signed
      split
      next heq => cases heq
      next heq =>
        obtain ⟨rfl, -⟩ := List.cons.inj heq
        cases hfirst
      next heq =>
        obtain ⟨rfl, -⟩ := List.cons.inj heq
        cases hfirst
      next => rfl
    rw [numeral, if_neg Bool.false_ne_true, hpositive, h.unsignedInteger_eq]
    cases readInteger 10 ds <;> rfl

end Digits

theorem ofScalar_of_writeInteger {n : Int} {text : String} (h : Number.writeInteger n = .ok text) :
    Tag.ofScalar text = .int := by
  obtain ⟨negative, htext, -⟩ := exists_numeral h
  have hdigits := digits_toDigits n.natAbs
  have hother : ∀ c, Number.isAsciiDigit c = false → c ≠ '-' → c ∉ text.toList := by
    intro c hc hsign
    rw [htext]
    exact hdigits.not_mem_numeral hc hsign
  have hempty : text ≠ "" := by
    rintro rfl
    have hnil : numeral negative (Nat.toDigits 10 n.natAbs) = [] := htext.symm
    have hnone : Tag.dropSign (numeral negative (Nat.toDigits 10 n.natAbs)) =
        Nat.toDigits 10 n.natAbs := hdigits.dropSign_numeral
    rw [hnil] at hnone
    exact hdigits.ne_nil hnone.symm
  have hfeed : text ≠ "\n" := by
    rintro rfl
    exact hother '\n' rfl (by decide) (by decide)
  have hdrop : Tag.dropLineFeed text = text := by
    refine if_neg ?_
    rw [beq_iff_eq]
    intro hlast
    exact hother '\n' rfl (by decide) (List.mem_of_getLast? hlast)
  have htruth : Tag.truthWords.contains text = false := by
    rw [List.contains_eq_mem, decide_eq_false_iff_not]
    intro hmem
    have hletter : (Tag.truthWords.all fun word => word.toList.any fun c =>
        !Number.isAsciiDigit c && c != '-') = true := by decide
    obtain ⟨c, hc, hsign⟩ := List.any_eq_true.mp (List.all_eq_true.mp hletter text hmem)
    rw [Bool.and_eq_true, Bool.not_eq_true', bne_iff_ne] at hsign
    exact hother c hsign.1 hsign.2 hc
  have hfloat : Tag.isFloat text.toList = false := by
    rw [htext]
    exact hdigits.isFloat_numeral
  have hinteger : Tag.isInteger text.toList = true := by
    rw [htext]
    exact hdigits.isInteger_numeral
  unfold Tag.ofScalar
  dsimp only
  rw [if_neg (by simpa using hempty), if_neg (by simpa using hfeed), hdrop, htruth, hfloat, hinteger]
  rfl

/-- Every number that is written in decimal is read back by YAML. -/
theorem integerOf_of_writeInteger {n : Int} {text : String} (h : Number.writeInteger n = .ok text) :
    integerOf text = .ok n := by
  obtain ⟨negative, htext, hn⟩ := exists_numeral h
  have hdigits := digits_toDigits n.natAbs
  have hjoins : dropJoins text = text.toList := by
    rw [dropJoins, List.filter_eq_self]
    intro c hc
    rw [bne_iff_ne]
    rintro rfl
    rw [htext] at hc
    exact hdigits.not_mem_numeral rfl (by decide) hc
  have habs : Number.writeInteger n.natAbs = .ok (String.ofList (Nat.toDigits 10 n.natAbs)) := by
    obtain ⟨hlimit, -⟩ := Number.eq_of_writeInteger h
    have hnonneg : ¬((n.natAbs : Int) < 0) := by omega
    rw [Number.writeInteger, Int.natAbs_natCast]
    rw [if_neg hlimit, if_neg hnonneg]
  have hread : readInteger 10 (Nat.toDigits 10 n.natAbs) = .ok (n.natAbs : Int) := by
    rw [readInteger, Number.readInteger_writeInteger habs]
    rfl
  rw [integerOf, hjoins, htext, hdigits.signed_numeral, hread]
  exact congrArg Except.ok hn.symm

end Yaml

end MergeBench
