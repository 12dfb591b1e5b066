import MergeBench.Proofs.Settings.Precedence

namespace MergeBench

namespace ShellWords

/-! ### One character -/

theorem splitFrom_separator {c : Char} (h : isSeparator c = true) (word : Option (List Char))
    (rest : List Char) :
    splitFrom .plain word (c :: rest) =
      (splitFrom .plain none rest).map (word.toList.map List.reverse ++ ·) := by
  rw [splitFrom, if_pos h]
  cases splitFrom .plain none rest <;> rfl

theorem ne_mark_of_isBare {c : Char} (h : isBare c = true) :
    isSeparator c = false ∧ c ≠ '\\' ∧ c ≠ '\'' ∧ c ≠ '"' := by
  refine ⟨?_, ?_, ?_, ?_⟩
  · by_contra hseparator
    simp only [isSeparator, Bool.not_eq_false, Bool.or_eq_true, beq_iff_eq] at hseparator
    rcases hseparator with ((rfl | rfl) | rfl) | rfl <;> exact absurd h (by decide)
  all_goals
    rintro rfl
    exact absurd h (by decide)

theorem splitFrom_isBare {c : Char} (h : isBare c = true) (word : Option (List Char))
    (rest : List Char) :
    splitFrom .plain word (c :: rest) = splitFrom .plain (some (c :: word.getD [])) rest := by
  obtain ⟨hseparator, hescape, hsingle, hdouble⟩ := ne_mark_of_isBare h
  rw [splitFrom]
  simp [hseparator, hescape, hsingle, hdouble]

/-! ### One word -/

theorem splitFrom_bare {cs : List Char} (h : ∀ c ∈ cs, isBare c = true) (w rest : List Char) :
    splitFrom .plain (some w) (cs ++ rest) = splitFrom .plain (some (cs.reverse ++ w)) rest := by
  induction cs generalizing w with
  | nil => rfl
  | cons c cs ih =>
    rw [List.forall_mem_cons] at h
    calc splitFrom .plain (some w) (c :: cs ++ rest)
        = splitFrom .plain (some (c :: w)) (cs ++ rest) := splitFrom_isBare h.1 _ _
      _ = splitFrom .plain (some (cs.reverse ++ c :: w)) rest := ih h.2 (c :: w)
      _ = splitFrom .plain (some ((c :: cs).reverse ++ w)) rest := by simp

/-- What stands for a character between single quotes. -/
def quotedChar (c : Char) : List Char :=
  if c == '\'' then ['\'', '"', '\'', '"', '\''] else [c]

/-- A single quote closes the quotes, stands between double ones, and opens them again. -/
theorem splitFrom_quotedChar (c : Char) (w rest : List Char) :
    splitFrom .singleQuoted (some w) (quotedChar c ++ rest) =
      splitFrom .singleQuoted (some (c :: w)) rest := by
  by_cases h : c = '\''
  · subst h
    simp [quotedChar, splitFrom, isSeparator]
  · simp [quotedChar, splitFrom, h]

theorem splitFrom_quoted (cs w rest : List Char) :
    splitFrom .singleQuoted (some w) (cs.flatMap quotedChar ++ '\'' :: rest) =
      splitFrom .plain (some (cs.reverse ++ w)) rest := by
  induction cs generalizing w with
  | nil => simp [splitFrom]
  | cons c cs ih =>
    rw [List.flatMap_cons, List.append_assoc, splitFrom_quotedChar, ih, List.reverse_cons,
      List.append_assoc, List.singleton_append]

theorem splitFrom_quoteChars (cs rest : List Char) :
    splitFrom .plain none (quoteChars cs ++ rest) = splitFrom .plain (some cs.reverse) rest := by
  unfold quoteChars
  split
  case isTrue hbare =>
    rw [Bool.and_eq_true, List.all_eq_true] at hbare
    obtain ⟨hne, hbare⟩ := hbare
    cases cs with
    | nil => simp at hne
    | cons c cs =>
      rw [List.forall_mem_cons] at hbare
      rw [List.cons_append, splitFrom_isBare hbare.1, splitFrom_bare hbare.2]
      simp
  case isFalse =>
    have hopen : ∀ tail, splitFrom .plain none ('\'' :: tail) = splitFrom .singleQuoted (some []) tail := by
      intro tail
      simp [splitFrom, isSeparator]
    calc splitFrom .plain none ('\'' :: cs.flatMap quotedChar ++ ['\''] ++ rest)
        = splitFrom .singleQuoted (some []) (cs.flatMap quotedChar ++ '\'' :: rest) := by
          rw [List.cons_append, List.cons_append, hopen, List.append_assoc, List.singleton_append]
      _ = splitFrom .plain (some cs.reverse) rest := by rw [splitFrom_quoted, List.append_nil]

/-! ### All words -/

theorem splitFrom_intercalate (words : List (List Char)) :
    splitFrom .plain none ([' '].intercalate (words.map quoteChars)) = .ok words := by
  induction words with
  | nil => rfl
  | cons word words ih =>
    cases words with
    | nil =>
      have hword := splitFrom_quoteChars word []
      rw [List.append_nil] at hword
      rw [List.map_singleton, List.intercalate_singleton, hword]
      simp [splitFrom]
    | cons next words =>
      rw [List.map_cons, List.map_cons, List.intercalate_cons_cons, List.append_assoc,
        splitFrom_quoteChars, List.singleton_append, splitFrom_separator (by decide),
        ← List.map_cons, ih]
      simp [Except.map]

theorem split_join (words : List String) : split (join words) = .ok words := by
  have htext : (join words).toList = [' '].intercalate ((words.map String.toList).map quoteChars) := by
    rw [join, String.toList_intercalate, List.map_map, List.map_map]
    congr 2
    funext word
    exact String.toList_ofList
  rw [split, htext, splitFrom_intercalate]
  simp [Except.map]

end ShellWords

namespace Settings

/-- Words that are joined to one text make the same command as their list. -/
theorem splitCommand_join (key : String) {words : List String} (hne : words ≠ []) :
    splitCommand key (.text (ShellWords.join words)) = .ok words ∧
      splitCommand key (.list (words.map .text)) = .ok words := by
  constructor
  · exact splitCommand_eq_ok_iff.mpr ⟨.text rfl (ShellWords.split_join words), hne⟩
  · have hforms : List.Forall₂ TextForm (words.map .text) words := by
      rw [List.forall₂_map_left_iff, List.forall₂_same]
      intro word _
      rfl
    exact splitCommand_eq_ok_iff.mpr ⟨.list hforms, hne⟩

/-- An empty word, quotes of both kinds, a line end, a backslash, a mark and a letter beyond ASCII. -/
theorem splitCommand_join_marks :
    splitCommand "bench_cmd" (.text (ShellWords.join ["", "it's \"so\"", "a\nb", "\\", "#é"])) =
        .ok ["", "it's \"so\"", "a\nb", "\\", "#é"] ∧
      splitCommand "bench_cmd" (.list (["", "it's \"so\"", "a\nb", "\\", "#é"].map .text)) =
        .ok ["", "it's \"so\"", "a\nb", "\\", "#é"] :=
  splitCommand_join "bench_cmd" (by simp)

end Settings

end MergeBench
