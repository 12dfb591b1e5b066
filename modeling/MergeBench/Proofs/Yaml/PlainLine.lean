import MergeBench.Yaml.Lexer

/-!
Plain scalars on one line. Words with spaces between them, none of which looks like a comment or ends
in a colon, are read back by the lexer as they are: first as a scalar, by induction on the words, then
as the value of a mapping with one entry.
-/

namespace MergeBench.Yaml

/-! ### What plain scalars are made of -/

structure PlainWord (w : List Char) : Prop where
  ne_nil : w ≠ []
  no_gap : ∀ ch ∈ w, isGapOrEnd ch = false
  no_key : w.getLast? ≠ some ':'
  no_comment : w.head? ≠ some '#'

instance : DecidablePred PlainWord := fun w =>
  decidable_of_iff (w ≠ [] ∧ w.all (!isGapOrEnd ·) = true ∧ w.getLast? ≠ some ':' ∧ w.head? ≠ some '#') <| by
    constructor
    · rintro ⟨hne, hgap, hkey, hcomment⟩
      exact ⟨hne, by simpa using hgap, hkey, hcomment⟩
    · rintro ⟨hne, hgap, hkey, hcomment⟩
      exact ⟨hne, by simpa using hgap, hkey, hcomment⟩

inductive PlainLine : List Char → Prop
  | word {w : List Char} (hw : PlainWord w) : PlainLine w
  | words {w gap line : List Char} (hw : PlainWord w) (hgap : gap ≠ [])
      (hspaces : ∀ ch ∈ gap, ch = ' ') (hline : PlainLine line) : PlainLine (w ++ (gap ++ line))

/-- The first character is no mark; three marks may stand for themselves with no gap after them. -/
inductive BeginsPlain : List Char → Prop
  | letter {ch : Char} {rest : List Char} (h : Lexer.isMark ch = false) : BeginsPlain (ch :: rest)
  | mark {ch next : Char} {rest : List Char} (h : ch ∈ ['-', '?', ':']) (hnext : isGapOrEnd next = false) :
      BeginsPlain (ch :: next :: rest)

theorem BeginsPlain.append {cs : List Char} (h : BeginsPlain cs) (rest : List Char) :
    BeginsPlain (cs ++ rest) := by
  cases h with
  | letter h => exact .letter h
  | mark h hnext => exact .mark h hnext

theorem isBreak_of_isGapOrEnd {ch : Char} (h : isGapOrEnd ch = false) : isBreak ch = false := by
  simp only [isGapOrEnd, isSpaceOrEnd, isBreakOrEnd, Bool.or_eq_false_iff] at h
  exact h.2.2.2

theorem ne_space_of_isGapOrEnd {ch : Char} (h : isGapOrEnd ch = false) : ch ≠ ' ' := by
  rintro rfl
  exact absurd h (by decide)

theorem PlainLine.exists_word {line : List Char} (h : PlainLine line) :
    ∃ w rest, line = w ++ rest ∧ PlainWord w := by
  cases h with
  | word hw => exact ⟨line, [], (List.append_nil line).symm, hw⟩
  | words hw => exact ⟨_, _, rfl, hw⟩

theorem PlainWord.exists_cons {w : List Char} (h : PlainWord w) :
    ∃ ch rest, w = ch :: rest ∧ isGapOrEnd ch = false ∧ ch ≠ '#' := by
  cases w with
  | nil => exact absurd rfl h.ne_nil
  | cons ch rest =>
    refine ⟨ch, rest, rfl, h.no_gap ch List.mem_cons_self, ?_⟩
    rintro rfl
    exact h.no_comment rfl

theorem PlainLine.exists_cons {line : List Char} (h : PlainLine line) :
    ∃ ch rest, line = ch :: rest ∧ isGapOrEnd ch = false ∧ ch ≠ '#' := by
  obtain ⟨w, rest, rfl, hw⟩ := h.exists_word
  obtain ⟨ch, more, rfl, hgap, hcomment⟩ := hw.exists_cons
  exact ⟨ch, more ++ rest, rfl, hgap, hcomment⟩

/-! ### Moving on one line -/

namespace Cursor

/-- The characters `cs` lie between the two cursors, all on one line. -/
structure Passes (c : Cursor) (cs : List Char) (c' : Cursor) : Prop where
  rest : c.rest = cs ++ c'.rest
  line : c'.line = c.line
  column : c.column ≤ c'.column
  index : c'.index = c.index + cs.length

theorem passes_skip {c : Cursor} {cs rest : List Char} (h : c.rest = cs ++ rest)
    (hline : ∀ ch ∈ cs, isBreak ch = false) : c.Passes cs (c.skip cs.length) := by
  induction cs generalizing c with
  | nil => exact ⟨rfl, rfl, Nat.le_refl _, rfl⟩
  | cons ch cs ih =>
    obtain ⟨hch, hcs⟩ := List.forall_mem_cons.mp hline
    have hnext : c.Passes [ch] c.next ∧ c.next.rest = cs ++ rest := by
      unfold next
      rw [h]
      simp only [List.cons_append, hch, Bool.false_and, Bool.false_eq_true, ↓reduceIte]
      split <;> exact ⟨⟨by rw [h]; rfl, rfl, by simp, rfl⟩, rfl⟩
    obtain ⟨hfirst, hrest⟩ := hnext
    have hlater := ih hrest hcs
    refine ⟨?_, hlater.line.trans hfirst.line, Nat.le_trans hfirst.column hlater.column, ?_⟩
    · rw [hfirst.rest, hlater.rest]
      rfl
    · have hindex := hlater.index
      rw [hfirst.index] at hindex
      simp only [List.length_cons, List.length_nil] at hindex ⊢
      rw [skip]
      omega

theorem Passes.rest_eq {c c' : Cursor} {cs rest : List Char} (h : c.Passes cs c')
    (hrest : c.rest = cs ++ rest) : c'.rest = rest :=
  List.append_cancel_left (h.rest.symm.trans hrest)

/-- Nothing is to be skipped in front of the cursor. -/
def AtToken (c : Cursor) : Prop :=
  ∀ ch rest, c.rest = ch :: rest → ch ≠ ' ' ∧ ch ≠ '#' ∧ isBreak ch = false

theorem lineBreak?_of_no_break {c : Cursor}
    (h : ∀ ch rest, c.rest = ch :: rest → isBreak ch = false) : c.lineBreak? = (none, c) := by
  unfold lineBreak?
  split
  next rest hrest => exact absurd (h _ _ hrest) (by decide)
  next ch rest _ hrest =>
    have hch := h _ _ hrest
    have hseparators : (ch == '\u2028' || ch == '\u2029') = false := by
      simp only [isBreak, Bool.or_eq_false_iff] at hch
      simp [hch.1.2, hch.2]
    rw [hseparators, hch]
    rfl
  next => rfl

theorem AtToken.skipSpaces {c : Cursor} (h : c.AtToken) : c.skipSpaces = c := by
  have hspan : c.span (· == ' ') = [] := by
    unfold span
    cases hrest : c.rest with
    | nil => rfl
    | cons ch rest =>
      have hch : (ch == ' ') = false := beq_false_of_ne (h ch rest hrest).1
      rw [List.takeWhile_cons, hch]
      rfl
  rw [Cursor.skipSpaces, skipWhile, hspan]
  rfl

theorem skipSpaces_of_space {c : Cursor} {ch : Char} {rest : List Char}
    (h : c.rest = ' ' :: ch :: rest) (hch : ch ≠ ' ') : c.skipSpaces = c.skip 1 := by
  have hspan : c.span (· == ' ') = [' '] := by
    have hne : (ch == ' ') = false := beq_false_of_ne hch
    rw [span, h]
    simp [hne]
  rw [Cursor.skipSpaces, skipWhile, hspan]
  rfl

theorem AtToken.skipComment {c : Cursor} (h : c.AtToken) : c.skipComment = c := by
  unfold Cursor.skipComment peek
  cases hrest : c.rest with
  | nil => rfl
  | cons ch rest => exact if_neg (by simpa using (h ch rest hrest).2.1)

theorem AtToken.lineBreak? {c : Cursor} (h : c.AtToken) : c.lineBreak? = (none, c) :=
  lineBreak?_of_no_break fun ch rest hrest => (h ch rest hrest).2.2

end Cursor

/-! ### Reading a plain scalar -/

/-- A word of a plain scalar goes no further than this. -/
def StopsPlain (rest : List Char) : Prop :=
  ∀ ch more, rest = ch :: more → endsPlain false ch (more.headD endMark) = true

theorem plainWord_append {w rest : List Char} (hw : PlainWord w) (hrest : StopsPlain rest) :
    plainWord false (w ++ rest) = w := by
  have hstop : plainWord false rest = [] := by
    cases rest with
    | nil => rfl
    | cons ch more => exact if_pos (hrest ch more rfl)
  obtain ⟨-, hgap, hkey, -⟩ := hw
  induction w with
  | nil => exact hstop
  | cons ch w ih =>
    obtain ⟨hch, hgap⟩ := List.forall_mem_cons.mp hgap
    have hends : endsPlain false ch ((w ++ rest).headD endMark) = false := by
      simp only [endsPlain, hch, Bool.false_and, Bool.or_false, Bool.false_or, Bool.and_eq_false_iff]
      cases w with
      | nil =>
        refine .inl (beq_false_of_ne ?_)
        rintro rfl
        exact hkey rfl
      | cons next w => exact .inr (hgap next List.mem_cons_self)
    rw [List.cons_append, plainWord, hends]
    simp only [Bool.false_eq_true, ↓reduceIte, List.cons.injEq, true_and]
    refine ih hgap ?_
    cases w with
    | nil => rintro ⟨⟩
    | cons next w => exact hkey

theorem plainGap_spaces {c : Cursor} {gap rest : List Char} (h : c.rest = gap ++ rest)
    (hspaces : ∀ ch ∈ gap, ch = ' ')
    (hrest : ∀ ch more, rest = ch :: more → ch ≠ ' ' ∧ isBreak ch = false) :
    plainGap c = ⟨gap, false, c.skip gap.length⟩ := by
  have hspan : c.span (· == ' ') = gap := by
    rw [Cursor.span, h, List.takeWhile_append_of_pos (by simpa using hspaces)]
    cases rest with
    | nil => simp
    | cons ch more =>
      have hch : (ch == ' ') = false := beq_false_of_ne (hrest ch more rfl).1
      rw [List.takeWhile_cons, hch]
      simp
  have hpasses : c.Passes gap (c.skip gap.length) := by
    refine Cursor.passes_skip h fun ch hch => ?_
    rw [hspaces ch hch]
    decide
  have hbreak : (c.skip gap.length).lineBreak? = (none, c.skip gap.length) := by
    refine Cursor.lineBreak?_of_no_break fun ch more hmore => ?_
    exact (hrest ch more ((hpasses.rest_eq h).symm.trans hmore)).2
  rw [plainGap, hspan]
  dsimp only
  rw [hbreak]

theorem plainGap_lineFeed {c : Cursor} (h : c.rest = ['\n']) :
    plainGap c = ⟨[' '], true, ⟨[], c.line + 1, 0, c.index + 1⟩⟩ := by
  obtain ⟨rest, line, column, index⟩ := c
  cases h
  rfl

/-- What comes behind a plain scalar on one line, and whether that is a line end. -/
inductive Ending : List Char → Bool → Prop
  | none : Ending [] false
  | lineFeed : Ending ['\n'] true

theorem Ending.stopsPlain {ending : List Char} {broken : Bool} (h : Ending ending broken) :
    StopsPlain ending := by
  cases h with
  | none => rintro ch more ⟨⟩
  | lineFeed =>
    rintro ch more ⟨⟩
    decide

theorem stopsPlain_spaces {gap rest : List Char} (hgap : gap ≠ []) (hspaces : ∀ ch ∈ gap, ch = ' ') :
    StopsPlain (gap ++ rest) := by
  cases gap with
  | nil => exact absurd rfl hgap
  | cons space gap =>
    rintro ch more hmore
    obtain ⟨rfl, -⟩ := List.cons.inj hmore
    rw [hspaces space List.mem_cons_self]
    rfl

section Word

variable {c : Cursor} {w rest gap : List Char} {least : Int} {fuel : Nat} {broken : Bool}

theorem plainText_word (h : c.rest = w ++ rest) (hw : PlainWord w) (hrest : StopsPlain rest) :
    plainText false least (fuel + 1) gap broken c =
      let found := plainGap (c.skip w.length)
      if found.text.isEmpty || found.cursor.peek == '#' || found.cursor.column < least then
        ⟨gap ++ w, found.broken, found.cursor⟩
      else
        let rest := plainText false least fuel found.text found.broken found.cursor
        ⟨gap ++ w ++ rest.text, rest.broken, rest.cursor⟩ := by
  obtain ⟨ch, more, hcons, -, hcomment⟩ := hw.exists_cons
  have hpeek : (c.peek == '#') = false := by
    rw [Cursor.peek, h, hcons]
    exact beq_false_of_ne hcomment
  have hfull : w.isEmpty = false := by
    rw [hcons]
    rfl
  rw [plainText, hpeek, h, plainWord_append hw hrest]
  simp only [Bool.false_eq_true, ↓reduceIte, hfull, Bool.not_false, Bool.true_and]

theorem passes_word (h : c.rest = w ++ rest) (hw : PlainWord w) : c.Passes w (c.skip w.length) :=
  Cursor.passes_skip h fun ch hch => isBreak_of_isGapOrEnd (hw.no_gap ch hch)

/-- The scalar ends with the word if no space comes behind it. -/
theorem plainText_last (h : c.rest = w ++ rest) (hw : PlainWord w) (hstops : StopsPlain rest)
    (hrest : ∀ ch more, rest = ch :: more → ch ≠ ' ' ∧ isBreak ch = false) :
    plainText false least (fuel + 1) gap broken c = ⟨gap ++ w, false, c.skip w.length⟩ := by
  have hfound : plainGap (c.skip w.length) = ⟨[], false, c.skip w.length⟩ :=
    plainGap_spaces ((passes_word h hw).rest_eq h) (by simp) hrest
  rw [plainText_word h hw hstops, hfound]
  rfl

end Word

/-- By induction on the words; a gap in front of the line stays in front of it. -/
theorem plainText_line {line ending gap : List Char} {c : Cursor} {least : Int} {fuel : Nat}
    {broken ended : Bool} (hline : PlainLine line) (hending : Ending ending ended)
    (h : c.rest = line ++ ending) (hfuel : line.length < fuel) (hpositive : 0 < least)
    (hleast : least ≤ c.column) :
    ∃ c', plainText false least fuel gap broken c = ⟨gap ++ line, ended, c'⟩ ∧ c'.rest = [] := by
  induction hline generalizing c fuel gap broken with
  | @word w hw =>
    obtain ⟨fuel, rfl⟩ := Nat.exists_eq_succ_of_ne_zero (Nat.ne_of_gt (Nat.zero_lt_of_lt hfuel))
    have hrest := (passes_word h hw).rest_eq h
    cases hending with
    | none =>
      refine ⟨_, plainText_last h hw ?_ ?_, hrest⟩
      · rintro ch more ⟨⟩
      · rintro ch more ⟨⟩
    | lineFeed =>
      refine ⟨⟨[], (c.skip w.length).line + 1, 0, (c.skip w.length).index + 1⟩, ?_, rfl⟩
      rw [plainText_word h hw Ending.lineFeed.stopsPlain, plainGap_lineFeed hrest]
      have hless : decide (((0 : Nat) : Int) < least) = true := decide_eq_true hpositive
      dsimp only
      rw [hless, Bool.or_true, if_pos rfl]
  | @words w space line hw hgap hspaces hline ih =>
    obtain ⟨fuel, rfl⟩ := Nat.exists_eq_succ_of_ne_zero (Nat.ne_of_gt (Nat.zero_lt_of_lt hfuel))
    have hword : c.rest = w ++ (space ++ (line ++ ending)) := by
      rw [h, List.append_assoc, List.append_assoc]
    have hpasses := passes_word hword hw
    have hrest := hpasses.rest_eq hword
    obtain ⟨ch, more, hcons, hch, hcomment⟩ := hline.exists_cons
    have hfirst : ∀ first others, line ++ ending = first :: others →
        first ≠ ' ' ∧ isBreak first = false := by
      rintro first others heq
      rw [hcons, List.cons_append] at heq
      obtain ⟨rfl, -⟩ := List.cons.inj heq
      exact ⟨ne_space_of_isGapOrEnd hch, isBreak_of_isGapOrEnd hch⟩
    have hfound := plainGap_spaces hrest hspaces hfirst
    have hspacesPass : (c.skip w.length).Passes space ((c.skip w.length).skip space.length) :=
      Cursor.passes_skip hrest fun ch hch => by
        rw [hspaces ch hch]
        decide
    have hnext := hspacesPass.rest_eq hrest
    have hcolumn := Nat.le_trans hpasses.column hspacesPass.column
    have hshort : line.length < fuel := by
      have hpos := List.length_pos_iff.mpr hw.ne_nil
      simp only [List.length_append] at hfuel
      omega
    obtain ⟨c', hlater, hend⟩ : ∃ c', plainText false least fuel space false
        ((c.skip w.length).skip space.length) = ⟨space ++ line, ended, c'⟩ ∧ c'.rest = [] :=
      ih hnext hshort (by omega)
    refine ⟨c', ?_, hend⟩
    have hgoes : (space.isEmpty ||
        ((c.skip w.length).skip space.length).peek == '#' ||
        decide ((((c.skip w.length).skip space.length).column : Int) < least)) = false := by
      have hpeek : ((c.skip w.length).skip space.length).peek = ch := by
        rw [Cursor.peek, hnext, hcons]
        rfl
      rw [hpeek, beq_false_of_ne hcomment, Bool.or_false, Bool.or_eq_false_iff]
      refine ⟨by simpa using hgap, decide_eq_false ?_⟩
      omega
    rw [plainText_word hword hw (stopsPlain_spaces hgap hspaces), hfound]
    dsimp only
    rw [hgoes, hlater]
    simp

/-! ### The tokens of an entry -/

namespace Lexer

variable {x x' : Lexer}

theorem ne_of_isMark {ch mark : Char} (h : isMark ch = false) (hmark : isMark mark = true) :
    (ch == mark) = false := by
  apply beq_false_of_ne
  rintro rfl
  rw [hmark] at h
  cases h

theorem isMark_of_mem {mark : Char} (h : mark ∈ ['-', '?', ':']) : isMark mark = true := by
  simp only [List.mem_cons, List.not_mem_nil, or_false] at h
  rcases h with rfl | rfl | rfl <;> rfl

theorem beginsPlain_of_rest {cs : List Char} (hrest : x.cursor.rest = cs) (hbegins : BeginsPlain cs)
    (hfirst : ∀ ch ∈ cs.head?, isGapOrEnd ch = false) (hflow : x.inFlow = false) :
    x.beginsPlain = true := by
  unfold beginsPlain Cursor.peek Cursor.peekAt
  rw [hrest, hflow]
  cases hbegins with
  | letter h => simp [h, hfirst _ rfl]
  | mark h hnext =>
    simp only [List.mem_cons, List.not_mem_nil, or_false] at h
    rcases h with rfl | rfl | rfl <;> simp [hnext]

/-- None of the marks that begin something else is there. -/
theorem readToken_of_beginsPlain {ch : Char} {rest : List Char} (hrest : x.cursor.rest = ch :: rest)
    (hbegins : BeginsPlain (ch :: rest)) (hgap : isGapOrEnd ch = false) (hflow : x.inFlow = false)
    (hseparator : (x.cursor.column == 0 && x.cursor.atSeparator) = false) :
    x.readToken = x.readPlain.map (⟨·, true⟩) := by
  have hplain : x.beginsPlain = true :=
    beginsPlain_of_rest hrest hbegins (by simpa using hgap) hflow
  have hpeek : x.cursor.peek = ch := by
    rw [Cursor.peek, hrest]
    rfl
  have hend : (ch == endMark) = false := by
    apply beq_false_of_ne
    rintro rfl
    cases hgap
  have hne : ∀ mark, isMark mark = true → mark ∉ ['-', '?', ':'] → (ch == mark) = false := by
    intro mark hmark hother
    cases hbegins with
    | letter h => exact ne_of_isMark h hmark
    | mark h =>
      apply beq_false_of_ne
      rintro rfl
      exact hother h
  have hmark : ∀ mark ∈ ['-', '?', ':'],
      (ch == mark && isGapOrEnd (x.cursor.peekAt 1)) = false := by
    intro mark hmark
    rw [Bool.and_eq_false_iff, Cursor.peekAt, hrest]
    cases hbegins with
    | letter h => exact .inl (ne_of_isMark h (isMark_of_mem hmark))
    | mark h hnext => exact .inr hnext
  unfold readToken
  simp only [hpeek, hflow, hend, hplain, hseparator, Bool.false_or, Bool.not_false, Bool.and_true,
    Bool.false_and, hne '%' rfl (by decide), hne '[' rfl (by decide), hne '\x7b' rfl (by decide),
    hne ']' rfl (by decide), hne '\x7d' rfl (by decide), hne ',' rfl (by decide),
    hne '*' rfl (by decide), hne '&' rfl (by decide), hne '!' rfl (by decide),
    hne '|' rfl (by decide), hne '>' rfl (by decide), hne '\'' rfl (by decide),
    hne '"' rfl (by decide), hmark '-' (by decide), hmark '?' (by decide), hmark ':' (by decide),
    Bool.false_eq_true, ↓reduceIte]

theorem skipGap_of_skipSpaces {c : Cursor} (hspaces : x.cursor.skipSpaces = c) (h : c.AtToken)
    (fuel : Nat) : skipGap (fuel + 1) x = { x with cursor := c } := by
  rw [skipGap, hspaces, h.skipComment, h.lineBreak?]

theorem skipGap_of_atToken (h : x.cursor.AtToken) (fuel : Nat) : skipGap fuel x = x := by
  cases fuel with
  | zero => rfl
  | succ fuel => rw [skipGap_of_skipSpaces h.skipSpaces h]

theorem run_of_step (h : x.step = .ok ⟨x', true⟩) (fuel : Nat) : run (fuel + 1) x = run fuel x' := by
  rw [run, h]
  rfl

theorem run_of_last_step (h : x.step = .ok ⟨x', false⟩) (fuel : Nat) :
    run (fuel + 1) x = x'.tokens.reverse := by
  rw [run, h]
  rfl

/-! The four steps: the key, the colon, the value and the end. -/

theorem gap_of_atToken (hmark : 0 < x.cursor.index ∨ x.cursor.peek ≠ byteOrderMark)
    (h : x.cursor.AtToken) (fuel : Nat) : skipGap fuel x.skipByteOrderMark = x := by
  have hskip : x.skipByteOrderMark = x := by
    refine if_neg ?_
    rw [Bool.and_eq_true, beq_iff_eq, beq_iff_eq]
    rintro ⟨hindex, hpeek⟩
    rcases hmark with hmark | hmark
    · omega
    · exact hmark hpeek
  rw [hskip, skipGap_of_atToken h]

theorem step_eq_readToken
    (hgap : skipGap (x.cursor.rest.length + 1) x.skipByteOrderMark = x')
    (hfresh : ∀ entry ∈ x'.pending, x'.isStale entry.2 = false)
    (hindent : x'.indent ≤ x'.cursor.column) : x.step = x'.readToken := by
  have hstale : x'.dropStale = .ok x' := by
    have hnone : (x'.pending.any fun entry => x'.isStale entry.2 && entry.2.required) = false := by
      rw [List.any_eq_false]
      intro entry hentry
      simp [hfresh entry hentry]
    have hall : x'.pending.filter (fun entry => !x'.isStale entry.2) = x'.pending := by
      rw [List.filter_eq_self]
      intro entry hentry
      simp [hfresh entry hentry]
    rw [dropStale, hnone, hall]
    rfl
  have hclose : x'.closeTo x'.cursor.column = x' := by
    unfold closeTo
    split
    · rfl
    · cases houter : x'.outerIndents with
      | nil => rfl
      | cons outer rest => exact if_neg (Int.not_lt.mpr hindent)
  unfold step
  rw [hgap, hstale]
  change (x'.closeTo x'.cursor.column).readToken = x'.readToken
  rw [hclose]

theorem readPlain_of_scalar {found : PlainScalar} (hnoted : x.notePending = .ok x')
    (hscalar : plainScalar x'.inFlow x'.indent x'.cursor = found) :
    x.readPlain = .ok { x'.emit (.scalar (String.ofList found.text) true) with
      cursor := found.cursor, keyAllowed := found.broken } := by
  rw [readPlain, hnoted, ← hscalar]
  rfl

section Entry

variable {k t : List Char} {ending : List Char} {ended : Bool} {c c' : Cursor}

/-- The state behind the key, which is still pending. -/
def afterKey (k : List Char) (c : Cursor) : Lexer :=
  ⟨c, [.scalar (String.ofList k) true], 1, 0, -1, [], false,
    [(0, ⟨0, false, Cursor.start (k ++ c.rest)⟩)]⟩

def afterColon (k : List Char) (c : Cursor) : Lexer :=
  ⟨c, [.value, .scalar (String.ofList k) true, .key, .blockMapping], 4, 0, 0, [-1], false, []⟩

def afterValue (k t : List Char) (ended : Bool) (c : Cursor) : Lexer :=
  ⟨c, [.scalar (String.ofList t) true, .value, .scalar (String.ofList k) true, .key, .blockMapping],
    5, 0, 0, [-1], ended, []⟩

def afterEnd (k t : List Char) (ended : Bool) (c : Cursor) : Lexer :=
  ⟨c, [.blockEnd, .scalar (String.ofList t) true, .value, .scalar (String.ofList k) true, .key,
    .blockMapping], 6, 0, -1, [], ended, []⟩

theorem step_key {rest : List Char} (hk : PlainWord k) (hbegins : BeginsPlain k)
    (hseparator : (Cursor.start (k ++ ':' :: ' ' :: rest)).atSeparator = false)
    (hmark : k.head? ≠ some byteOrderMark) :
    (start (k ++ ':' :: ' ' :: rest)).step =
      .ok ⟨afterKey k ((Cursor.start (k ++ ':' :: ' ' :: rest)).skip k.length), true⟩ := by
  obtain ⟨ch, more, rfl, hch, hcomment⟩ := hk.exists_cons
  have hat : (start (ch :: more ++ ':' :: ' ' :: rest)).cursor.AtToken := by
    rintro first others ⟨⟩
    exact ⟨ne_space_of_isGapOrEnd hch, hcomment, isBreak_of_isGapOrEnd hch⟩
  have hgap := gap_of_atToken (x := start (ch :: more ++ ':' :: ' ' :: rest))
    (.inr fun heq => hmark (congrArg some heq)) hat
      ((start (ch :: more ++ ':' :: ' ' :: rest)).cursor.rest.length + 1)
  have hindent : (-1 : Int) ≤ ((0 : Nat) : Int) := by decide
  have hrest : (start (ch :: more ++ ':' :: ' ' :: rest)).cursor.rest =
      ch :: (more ++ ':' :: ' ' :: rest) := rfl
  rw [step_eq_readToken hgap (List.forall_mem_nil _) hindent,
    readToken_of_beginsPlain hrest (hbegins.append _) hch rfl
      (by rw [show (start _).cursor.atSeparator = false from hseparator, Bool.and_false])]
  have hstops : StopsPlain (':' :: ' ' :: rest) := by
    rintro first others ⟨⟩
    rfl
  have hscalar : plainScalar false (-1) (Cursor.start (ch :: more ++ ':' :: ' ' :: rest)) =
      ⟨ch :: more, false,
        (Cursor.start (ch :: more ++ ':' :: ' ' :: rest)).skip (ch :: more).length⟩ := by
    refine plainText_last rfl hk hstops ?_
    rintro first others ⟨⟩
    decide
  have hnoted : (start (ch :: more ++ ':' :: ' ' :: rest)).notePending =
      .ok { start (ch :: more ++ ':' :: ' ' :: rest) with
        pending := [(0, ⟨0, false, Cursor.start (ch :: more ++ ':' :: ' ' :: rest)⟩)] } := rfl
  have hrest : ((Cursor.start (ch :: more ++ ':' :: ' ' :: rest)).skip (ch :: more).length).rest =
      ':' :: ' ' :: rest := (passes_word rfl hk).rest_eq rfl
  rw [readPlain_of_scalar hnoted hscalar, afterKey, hrest]
  rfl

theorem step_colon {rest : List Char} (hrest : c.rest = ':' :: ' ' :: rest) (hline : c.line = 0)
    (hindex : c.index = k.length) (hlength : k.length ≤ keyLength) (hk : k ≠ []) :
    (afterKey k c).step = .ok ⟨afterColon k c.next, true⟩ := by
  have hpositive : 0 < c.index := by
    rw [hindex]
    exact List.length_pos_iff.mpr hk
  have hat : (afterKey k c).cursor.AtToken := by
    rintro first others hfirst
    obtain ⟨rfl, -⟩ := List.cons.inj (hrest.symm.trans hfirst)
    decide
  have hgap := gap_of_atToken (x := afterKey k c) (.inl hpositive) hat
    ((afterKey k c).cursor.rest.length + 1)
  rw [step_eq_readToken hgap ?_ ?_]
  · obtain ⟨_, line, column, index⟩ := c
    cases hrest
    have hseparator : (afterKey k ⟨':' :: ' ' :: rest, line, column, index⟩).cursor.atSeparator =
        false := rfl
    have hpeek : (afterKey k ⟨':' :: ' ' :: rest, line, column, index⟩).cursor.peek = ':' := rfl
    have hnext : (afterKey k ⟨':' :: ' ' :: rest, line, column, index⟩).cursor.peekAt 1 = ' ' := rfl
    unfold readToken
    simp only [hpeek, hnext, hseparator, Bool.and_false]
    rfl
  · simp only [afterKey, List.mem_singleton, forall_eq]
    change (0 != c.line || decide (keyLength < c.index - 0)) = false
    rw [hline, decide_eq_false (by omega)]
    rfl
  · change (-1 : Int) ≤ c.column
    omega

theorem step_value (hrest : c.rest = ' ' :: (t ++ ending)) (ht : PlainLine t)
    (hbegins : BeginsPlain t) (hending : Ending ending ended) (hcolumn : 0 < c.column)
    (hindex : 0 < c.index) :
    ∃ c', (afterColon k c).step = .ok ⟨afterValue k t ended c', true⟩ ∧ c'.rest = [] := by
  obtain ⟨ch, more, rfl, hch, hcomment⟩ := ht.exists_cons
  have hpasses : c.Passes [' '] (c.skip 1) :=
    Cursor.passes_skip hrest (List.forall_mem_singleton.mpr rfl)
  have hthere : (c.skip 1).rest = ch :: more ++ ending := hpasses.rest_eq hrest
  have hat : (c.skip 1).AtToken := by
    rintro first others hfirst
    obtain ⟨rfl, -⟩ := List.cons.inj (hthere.symm.trans hfirst)
    exact ⟨ne_space_of_isGapOrEnd hch, hcomment, isBreak_of_isGapOrEnd hch⟩
  have hgap : skipGap ((afterColon k c).cursor.rest.length + 1) (afterColon k c).skipByteOrderMark =
      afterColon k (c.skip 1) := by
    have hmark : (afterColon k c).skipByteOrderMark = afterColon k c := by
      refine if_neg ?_
      rw [Bool.and_eq_true, beq_iff_eq]
      rintro ⟨hzero, -⟩
      exact absurd hzero (Nat.ne_of_gt hindex)
    have hskip : (afterColon k c).cursor.skipSpaces = c.skip 1 :=
      Cursor.skipSpaces_of_space hrest (ne_space_of_isGapOrEnd hch)
    rw [hmark, skipGap_of_skipSpaces hskip hat]
    rfl
  have hcolumn' : 0 < (c.skip 1).column := Nat.lt_of_lt_of_le hcolumn hpasses.column
  have hindent : (afterColon k (c.skip 1)).indent ≤ (c.skip 1).column := by
    change (0 : Int) ≤ (c.skip 1).column
    omega
  have hseparator : ((c.skip 1).column == 0 && (c.skip 1).atSeparator) = false := by
    rw [beq_false_of_ne (Nat.ne_of_gt hcolumn')]
    rfl
  rw [step_eq_readToken hgap (List.forall_mem_nil _) hindent,
    readToken_of_beginsPlain (x := afterColon k (c.skip 1)) hthere (hbegins.append ending) hch rfl
      hseparator]
  have hfuel : (ch :: more).length < (c.skip 1).rest.length + 1 := by
    rw [hthere, List.length_append]
    omega
  obtain ⟨c', hscalar, hend⟩ : ∃ c', plainScalar false 0 (c.skip 1) = ⟨ch :: more, ended, c'⟩ ∧
      c'.rest = [] := plainText_line ht hending hthere hfuel (by decide) (by omega)
  have hnoted : (afterColon k (c.skip 1)).notePending = .ok (afterColon k (c.skip 1)) := rfl
  refine ⟨c', ?_, hend⟩
  rw [readPlain_of_scalar hnoted hscalar]
  rfl

theorem step_end (hrest : c.rest = []) :
    (afterValue k t ended c).step = .ok ⟨afterEnd k t ended c, false⟩ := by
  have hat : (afterValue k t ended c).cursor.AtToken := by
    rintro first others hfirst
    cases hrest.symm.trans hfirst
  have hpeek : (afterValue k t ended c).cursor.peek = endMark := by
    rw [Cursor.peek, show (afterValue k t ended c).cursor.rest = [] from hrest]
    rfl
  have hgap := gap_of_atToken (x := afterValue k t ended c) (.inr (by rw [hpeek]; decide)) hat
    ((afterValue k t ended c).cursor.rest.length + 1)
  have hindent : (afterValue k t ended c).indent ≤ c.column := by
    change (0 : Int) ≤ c.column
    omega
  rw [step_eq_readToken hgap (List.forall_mem_nil _) hindent, readToken, hpeek]
  rfl

end Entry

end Lexer

/-- Letters begin the key, and it is short enough to be one. -/
structure PlainKey (k : List Char) : Prop where
  word : PlainWord k
  first : k.head?.all Char.isAlpha = true
  length : k.length ≤ Lexer.keyLength
  allowed : ∀ ch ∈ k, isAllowed ch = true

structure PlainScalarText (t : List Char) : Prop where
  line : PlainLine t
  begins : BeginsPlain t
  allowed : ∀ ch ∈ t, isAllowed ch = true

/-- The tokens of a mapping with one entry, both its sides plain scalars. -/
def entryTokens (key text : String) : List Token :=
  [.blockMapping, .key, .scalar key true, .value, .scalar text true, .blockEnd]

variable {k t ending : List Char} {ended : Bool}

theorem Ending.allowed (h : Ending ending ended) : ∀ ch ∈ ending, isAllowed ch = true := by
  cases h with
  | none => exact List.forall_mem_nil _
  | lineFeed => exact List.forall_mem_singleton.mpr rfl

theorem ne_of_isAlpha {ch other : Char} (h : ch.isAlpha = true) (hother : other.isAlpha = false) :
    ch ≠ other := by
  rintro rfl
  rw [hother] at h
  cases h

theorem isMark_of_isAlpha {ch : Char} (h : ch.isAlpha = true) : Lexer.isMark ch = false := by
  have hnone : (['-', '?', ':', ',', '[', ']', '\x7b', '\x7d', '#', '&', '*', '!', '|', '>',
      '\'', '"', '%', '@', '\x60'].all (!Char.isAlpha ·)) = true := by decide
  cases hmark : Lexer.isMark ch with
  | false => rfl
  | true =>
    have hletter := List.all_eq_true.mp hnone ch (List.elem_iff.mp hmark)
    rw [h] at hletter
    cases hletter

/-- A key, a colon and a space, and a plain scalar on the same line. -/
theorem tokens_line (hk : PlainKey k) (ht : PlainScalarText t) (hending : Ending ending ended) :
    tokens (String.ofList (k ++ ':' :: ' ' :: (t ++ ending))) =
      entryTokens (String.ofList k) (String.ofList t) := by
  obtain ⟨ch, more, hcons, -, -⟩ := hk.word.exists_cons
  have halpha : ch.isAlpha = true := by simpa [hcons] using hk.first
  have hbegins : BeginsPlain k := by
    rw [hcons]
    exact .letter (isMark_of_isAlpha halpha)
  have hmark : k.head? ≠ some byteOrderMark := by
    rw [hcons]
    rintro ⟨⟩
    exact absurd halpha (by decide)
  have hseparator : (Cursor.start (k ++ ':' :: ' ' :: (t ++ ending))).atSeparator = false := by
    have hdash : (ch == '-') = false := beq_false_of_ne (ne_of_isAlpha halpha rfl)
    have hdot : (ch == '.') = false := beq_false_of_ne (ne_of_isAlpha halpha rfl)
    rw [hcons]
    simp [Cursor.atSeparator, Cursor.start, hdash, hdot]
  have hkey := Lexer.step_key hk.word hbegins hseparator hmark
  have hpasses := passes_word (c := Cursor.start (k ++ ':' :: ' ' :: (t ++ ending))) rfl hk.word
  generalize (Cursor.start (k ++ ':' :: ' ' :: (t ++ ending))).skip k.length = c at hkey hpasses
  have hrest : c.rest = ':' :: ' ' :: (t ++ ending) := hpasses.rest_eq rfl
  have hcolon := Lexer.step_colon hrest hpasses.line (hpasses.index.trans (Nat.zero_add _)) hk.length
    hk.word.ne_nil
  have hsplit : c.rest = [':'] ++ ' ' :: (t ++ ending) := hrest
  have hnext : c.Passes [':'] c.next := Cursor.passes_skip hsplit (List.forall_mem_singleton.mpr rfl)
  have hcolumn : 0 < c.next.column := by
    unfold Cursor.next
    rw [hrest]
    exact Nat.succ_pos _
  have hindex : 0 < c.next.index := by
    rw [hnext.index]
    exact Nat.succ_pos _
  obtain ⟨c', hvalue, hend⟩ := Lexer.step_value (k := k) (hnext.rest_eq hrest) ht.line ht.begins hending
    hcolumn hindex
  have hlast : (Lexer.afterValue k t ended c').step = .ok ⟨Lexer.afterEnd k t ended c', false⟩ :=
    Lexer.step_end hend
  have hall : (k ++ ':' :: ' ' :: (t ++ ending)).all isAllowed = true := by
    rw [List.all_eq_true]
    intro x hx
    simp only [List.mem_append, List.mem_cons] at hx
    rcases hx with hx | rfl | rfl | hx | hx
    · exact hk.allowed x hx
    · rfl
    · rfl
    · exact ht.allowed x hx
    · exact hending.allowed x hx
  obtain ⟨fuel, hfuel⟩ : ∃ fuel, (k ++ ':' :: ' ' :: (t ++ ending)).length + 2 = fuel + 1 + 1 + 1 + 1 := by
    refine ⟨k.length + (t ++ ending).length, ?_⟩
    simp only [List.length_append, List.length_cons]
    omega
  unfold tokens
  dsimp only
  rw [String.toList_ofList, hall, if_pos rfl, hfuel, Lexer.run_of_step hkey, Lexer.run_of_step hcolon,
    Lexer.run_of_step hvalue, Lexer.run_of_last_step hlast]
  rfl

end MergeBench.Yaml
