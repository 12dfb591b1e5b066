import Mathlib.Data.List.Forall2
import MergeBench.Proofs.Failure
import MergeBench.Proofs.Json.Scalar

/-!
Values read back from their JSON text. A printed text is readable as its value if the reader comes to
the value at the end of the text, whatever follows in a longer one. Lists and maps are read in one way,
`Collects`: their texts are readable where those of their members are. So, by induction, is all that is
printed for a storable value.
-/

namespace MergeBench.Json

variable {room : Nat} {rest : List Char}

def named (e : String × Value) : Value × Value :=
  (.text e.1, e.2)

/-- Values that a text can hold as they are: no number but integers, and maps with distinct names, at
most `room` lists and maps inside each other. -/
inductive Storable : Nat → Value → Prop
  | null (room : Nat) : Storable room .null
  | bool (room : Nat) (b : Bool) : Storable room (.bool b)
  | int (room : Nat) (n : Int) : Storable room (.int n)
  | text (room : Nat) (s : String) : Storable room (.text s)
  | list {room : Nat} {items : List Value} (h : ∀ v ∈ items, Storable room v) :
      Storable (room + 1) (.list items)
  | map {room : Nat} {entries : List (String × Value)} (hnames : (entries.map Prod.fst).Nodup)
      (h : ∀ e ∈ entries, Storable room e.2) :
      Storable (room + 1) (.map (entries.map named))

/-- A text begins a value: neither a blank nor the end of a list stands at its front. -/
def Begins (text : List Char) : Prop :=
  ∃ c cs, text = c :: cs ∧ isGap c = false ∧ c ≠ ']' ∧ c ≠ '\ufeff'

structure Readable (room : Nat) (text : List Char) (v : Value) : Prop where
  begins : Begins text
  no_return : '\r' ∉ text
  read : ∀ rest fuel, Follows rest → text.length ≤ fuel →
    readValue fuel room (text ++ rest) = .ok (v, rest)

theorem skipGap_of_begins {text : List Char} (h : Begins text) (rest : List Char) :
    skipGap (text ++ rest) = text ++ rest := by
  obtain ⟨c, cs, rfl, hgap, -, -⟩ := h
  rw [List.cons_append, skipGap, List.dropWhile_cons_of_neg]
  simp [hgap]

/-! ### Words, numbers and strings -/

theorem exists_succ {n fuel : Nat} (h : n + 1 ≤ fuel) : ∃ k, fuel = k + 1 ∧ n ≤ k :=
  ⟨fuel - 1, by omega, by omega⟩

theorem readable_null (room : Nat) : Readable room "null".toList .null where
  begins := ⟨'n', _, rfl, rfl, by decide, by decide⟩
  no_return := by decide
  read rest fuel _ hfuel := by
    obtain ⟨fuel, rfl, -⟩ := exists_succ hfuel
    rfl

theorem readable_bool (room : Nat) (b : Bool) :
    Readable room (if b then "true" else "false").toList (.bool b) where
  begins := by cases b <;> exact ⟨_, _, rfl, rfl, by decide, by decide⟩
  no_return := by cases b <;> decide
  read rest fuel _ hfuel := by
    cases b <;>
    · obtain ⟨fuel, rfl, -⟩ := exists_succ hfuel
      rfl

theorem readable_text (room : Nat) (s : String) : Readable room (stringText s) (.text s) where
  begins := ⟨'"', _, rfl, rfl, by decide, by decide⟩
  no_return := not_mem_stringChars s.toList
  read rest fuel _ hfuel := by
    obtain ⟨fuel, rfl, -⟩ := exists_succ hfuel
    have hchars : stringText s ++ rest = '"' :: (s.toList.flatMap escapeChar ++ '"' :: rest) := by
      simp [stringText, stringChars]
    have hlength : s.toList.length < (s.toList.flatMap escapeChar ++ '"' :: rest).length + 1 := by
      have := length_le_length_flatMap s.toList
      rw [List.length_append]
      omega
    have hstring := readString_stringChars (stringText s ++ rest).length s.toList rest hlength
    rw [hchars] at hstring ⊢
    rw [readValue, hstring]
    simp only [bind, Except.bind, Value.ofPoints_map_char]
    rfl

theorem readable_int {n : Int} {text : List Char} (room : Nat) (h : integerChars n = .ok text) :
    Readable room text (.int n) := by
  obtain ⟨sign, c, digits, rfl, hsign, hdigits⟩ := integerChars_cases h
  have hnumeral : ∀ d ∈ sign ++ c :: digits, isNumeral d = true :=
    fun d hd => isNumeral_of_mem hsign hdigits hd
  obtain ⟨first, others, htext⟩ : ∃ first others, sign ++ c :: digits = first :: others :=
    List.exists_cons_of_ne_nil (by simp)
  have hfirst : isNumeral first = true := hnumeral first (by rw [htext]; exact List.mem_cons_self)
  refine ⟨⟨first, others, htext, ?_, ne_of_isNumeral hfirst (by decide),
    ne_of_isNumeral hfirst (by decide)⟩, fun hreturn => ?_, fun rest fuel hrest hfuel => ?_⟩
  · simp [isGap, ne_of_isNumeral hfirst (show isNumeral ' ' = false by decide),
      ne_of_isNumeral hfirst (show isNumeral '\t' = false by decide),
      ne_of_isNumeral hfirst (show isNumeral '\n' = false by decide),
      ne_of_isNumeral hfirst (show isNumeral '\r' = false by decide)]
  · exact ne_of_isNumeral (hnumeral _ hreturn) (show isNumeral '\r' = false by decide) rfl
  · have hword := readWord?_of_digit (hdigits c List.mem_cons_self) hsign (digits ++ rest)
    have hnumber := readNumber_integerChars h hrest
    rw [← List.cons_append, ← List.append_assoc] at hword
    rw [htext] at hfuel hword hnumber ⊢
    obtain ⟨fuel, rfl, -⟩ := exists_succ hfuel
    have hother {d : Char} (hd : isNumeral d = false) (tail : List Char) :
        first :: others ++ rest = d :: tail → False :=
      fun heq => ne_of_isNumeral hfirst hd (List.cons.inj heq).1
    rw [readValue, hword]
    · exact hnumber
    all_goals exact hother (by decide)

/-! ### Collections -/

theorem follows_comma (rest : List Char) : Follows (',' :: rest) := by
  simp [Follows]

theorem follows_lineBreak (level : Nat) (rest : List Char) : Follows (lineBreak level ++ rest) := by
  simp [Follows, lineBreak]

theorem isGap_of_mem_lineBreak {level : Nat} {c : Char} (h : c ∈ lineBreak level) :
    isGap c = true := by
  simp only [lineBreak, List.mem_cons, List.mem_replicate] at h
  rcases h with rfl | ⟨-, rfl⟩ <;> decide

theorem not_mem_lineBreak (level : Nat) : '\r' ∉ lineBreak level := by
  simp [lineBreak]

theorem skipGap_lineBreak (level : Nat) (cs : List Char) :
    skipGap (lineBreak level ++ cs) = skipGap cs := by
  rw [skipGap, skipGap, List.dropWhile_append_of_pos fun c hc => isGap_of_mem_lineBreak hc]

theorem skipGap_cons {c : Char} (hc : isGap c = false) (cs : List Char) :
    skipGap (c :: cs) = c :: cs := by
  rw [skipGap, List.dropWhile_cons_of_neg]
  simp [hc]

def joined (level : Nat) (members : List (List Char)) : List Char :=
  (List.intersperse (',' :: lineBreak level) members).flatten

section

variable {level : Nat} {first second : List Char} {members : List (List Char)}

theorem joined_one : joined level [first] = first := by
  simp [joined]

theorem joined_more : joined level (first :: second :: members) =
    first ++ ',' :: lineBreak level ++ joined level (second :: members) := by
  simp [joined, List.intersperse]

theorem bracket_cons {openMark closeMark : Char} :
    bracket openMark closeMark level (first :: members) =
      openMark :: (lineBreak (level + 1) ++
        (joined (level + 1) (first :: members) ++ (lineBreak level ++ [closeMark]))) := by
  simp [bracket, joined]

theorem exists_joined (level : Nat) (first : List Char) (members : List (List Char)) :
    ∃ others, joined level (first :: members) = first ++ others := by
  cases members with
  | nil => exact ⟨[], by rw [joined_one, List.append_nil]⟩
  | cons second members => exact ⟨_, by rw [joined_more, List.append_assoc]⟩

theorem not_mem_joined (h : ∀ text ∈ members, '\r' ∉ text) : '\r' ∉ joined level members := by
  induction members with
  | nil => simp [joined]
  | cons first members ih =>
    have hfirst := h first List.mem_cons_self
    have hmembers := ih fun text htext => h text (List.mem_cons_of_mem first htext)
    cases members with
    | nil => rwa [joined_one]
    | cons second members =>
      rw [joined_more]
      simp [hfirst, hmembers, not_mem_lineBreak]

end

theorem no_return_of_forall₂ {α : Type} {r : List Char → α → Prop} {texts : List (List Char)}
    {items : List α} (h : List.Forall₂ r texts items) (hr : ∀ text a, r text a → '\r' ∉ text) :
    ∀ text ∈ texts, '\r' ∉ text := by
  induction h with
  | nil => simp
  | cons hfirst _ ih => exact List.forall_mem_cons.mpr ⟨hr _ _ hfirst, ih⟩

theorem skipGap_joined {first : List Char} (h : Begins first) (level : Nat)
    (members : List (List Char)) (rest : List Char) :
    skipGap (joined level (first :: members) ++ rest) = joined level (first :: members) ++ rest := by
  obtain ⟨others, hothers⟩ := exists_joined level first members
  rw [hothers, List.append_assoc, skipGap_of_begins h]

/-- What lists and maps share. There is a reader of members, which takes one member after the other,
each up to the comma behind it and the last one up to the closing mark; the value is collected from the
entries that it finds. -/
structure Collects {α β : Type} (room : Nat) (openMark closeMark : Char)
    (member : List Char → α → Prop) (entry : α → β)
    (read : Nat → List Char → Except Failure (List β × List Char)) (collect : List β → Value) :
    Prop where
  marks : Begins [openMark] ∧ isGap closeMark = false ∧ '\r' ∉ [openMark, closeMark]
  begins {text : List Char} {a : α} : member text a → Begins text ∧ text.head? ≠ some closeMark
  no_return {text : List Char} {a : α} : member text a → '\r' ∉ text
  last {text rest tail : List Char} {a : α} {fuel : Nat} : member text a → Follows rest →
    text.length ≤ fuel → skipGap rest = closeMark :: tail →
      read (fuel + 1) (text ++ rest) = .ok ([entry a], tail)
  more {text rest tail : List Char} {a : α} {fuel : Nat} : member text a → Follows rest →
    text.length ≤ fuel → skipGap rest = ',' :: tail →
      read (fuel + 1) (text ++ rest) = (read fuel (skipGap tail)).map fun r => (entry a :: r.1, r.2)
  empty (fuel : Nat) (rest : List Char) :
    readValue (fuel + 1) (room + 1) (openMark :: closeMark :: rest) = .ok (collect [], rest)
  value (fuel : Nat) {cs : List Char} : (skipGap cs).head? ≠ some closeMark →
    readValue (fuel + 1) (room + 1) (openMark :: cs) =
      (read fuel (skipGap cs)).map fun r => (collect r.1, r.2)

namespace Collects

variable {α β : Type} {openMark closeMark : Char} {member : List Char → α → Prop} {entry : α → β}
  {read : Nat → List Char → Except Failure (List β × List Char)} {collect : List β → Value}
  {text : List Char} {a : α} {texts : List (List Char)} {items : List α}

theorem read_joined (h : Collects room openMark closeMark member entry read collect)
    (hfirst : member text a) (hothers : List.Forall₂ member texts items) (outer inner : Nat)
    (rest : List Char) {fuel : Nat} (hfuel : (joined inner (text :: texts)).length < fuel) :
    read fuel (joined inner (text :: texts) ++ (lineBreak outer ++ closeMark :: rest)) =
      .ok ((a :: items).map entry, rest) := by
  induction hothers generalizing text a fuel with
  | nil =>
    rw [joined_one] at hfuel ⊢
    obtain ⟨fuel, rfl, hfuel⟩ := exists_succ hfuel
    refine h.last hfirst (follows_lineBreak _ _) (Nat.lt_succ_iff.mp hfuel) ?_
    rw [skipGap_lineBreak, skipGap_cons h.marks.2.1]
  | cons hsecond _ ih =>
    obtain ⟨fuel, rfl, hfuel⟩ := exists_succ hfuel
    simp only [joined_more, List.length_append, List.length_cons] at hfuel
    simp only [joined_more, List.append_assoc, List.cons_append]
    rw [h.more hfirst (follows_comma _) (by omega) (skipGap_cons (by decide) _), skipGap_lineBreak,
      skipGap_joined (h.begins hsecond).1, ih hsecond (by omega)]
    rfl

theorem readable (h : Collects room openMark closeMark member entry read collect) (level : Nat)
    (hmembers : List.Forall₂ member texts items) :
    Readable (room + 1) (bracket openMark closeMark level texts) (collect (items.map entry)) := by
  obtain ⟨⟨c, cs, hc, hgap, hbracket, hmark⟩, -, hreturn⟩ := h.marks
  cases hc
  cases hmembers with
  | nil =>
    refine ⟨⟨openMark, _, rfl, hgap, hbracket, hmark⟩, hreturn, fun rest fuel _ hfuel => ?_⟩
    obtain ⟨fuel, rfl, -⟩ := exists_succ hfuel
    exact h.empty fuel rest
  | @cons text a texts items hfirst hothers =>
    rw [bracket_cons]
    refine ⟨⟨openMark, _, rfl, hgap, hbracket, hmark⟩, ?_, fun rest fuel _ hfuel => ?_⟩
    · have hnone := no_return_of_forall₂ (.cons hfirst hothers) fun _ _ h' => h.no_return h'
      simp only [List.mem_cons, List.not_mem_nil, or_false, not_or] at hreturn
      simp [not_mem_joined hnone, not_mem_lineBreak, hreturn]
    · obtain ⟨fuel, rfl, hfuel⟩ := exists_succ hfuel
      simp only [List.length_append, List.length_cons] at hfuel
      obtain ⟨hbegins, hhead⟩ := h.begins hfirst
      have hread := h.read_joined hfirst hothers level (level + 1) rest (show _ < fuel by omega)
      have hskip : skipGap (lineBreak (level + 1) ++
          (joined (level + 1) (text :: texts) ++ (lineBreak level ++ closeMark :: rest))) =
            joined (level + 1) (text :: texts) ++ (lineBreak level ++ closeMark :: rest) := by
        rw [skipGap_lineBreak, skipGap_joined hbegins]
      simp only [List.cons_append, List.append_assoc, List.nil_append]
      rw [h.value fuel, hskip, hread]
      · rfl
      · obtain ⟨others, hjoined⟩ := exists_joined (level + 1) text texts
        obtain ⟨c, cs, rfl, -⟩ := hbegins
        rw [hskip, hjoined]
        exact hhead

end Collects

theorem collects_items (room : Nat) :
    Collects room '[' ']' (Readable room) id (fun fuel cs => readItems fuel room cs) .list where
  marks := ⟨⟨'[', [], rfl, by decide, by decide, by decide⟩, by decide, by decide⟩
  begins h := by
    obtain ⟨c, cs, rfl, hgap, hclose, hmark⟩ := h.begins
    exact ⟨⟨c, cs, rfl, hgap, hclose, hmark⟩, by simpa using hclose⟩
  no_return h := h.no_return
  last h hrest hfuel hend := by
    rw [readItems, h.read _ _ hrest hfuel]
    simp only [bind, Except.bind, hend]
    rfl
  more {_ _ tail _ fuel} h hrest hfuel hnext := by
    rw [readItems, h.read _ _ hrest hfuel]
    simp only [bind, Except.bind, hnext]
    cases readItems fuel room (skipGap tail) <;> rfl
  empty fuel rest := rfl
  value fuel cs h := by
    -- the equation of the reader for this case asks for it
    have hne (rest : List Char) : skipGap cs ≠ ']' :: rest := fun heq => h (by rw [heq]; rfl)
    simp only [readValue, bind, Except.bind]
    cases readItems fuel room (skipGap cs) <;> rfl

/-! ### Members of maps -/

/-- The text of a member of a map: its name, a colon and the text of its value. -/
def IsMember (room : Nat) (text : List Char) (e : String × Value) : Prop :=
  ∃ value, text = stringText e.1 ++ ':' :: ' ' :: value ∧ Readable room value e.2

theorem IsMember.readMembers {text : List Char} {e : String × Value} (h : IsMember room text e)
    {rest : List Char} (hrest : Follows rest) {fuel : Nat} (hfuel : text.length ≤ fuel) :
    (∀ tail, skipGap rest = '\x7d' :: tail →
        readMembers (fuel + 1) room (text ++ rest) = .ok ([named e], tail)) ∧
      ∀ tail, skipGap rest = ',' :: tail → readMembers (fuel + 1) room (text ++ rest) =
        (readMembers fuel room (skipGap tail)).map fun r => (named e :: r.1, r.2) := by
  obtain ⟨value, rfl, hvalue⟩ := h
  simp only [stringText, stringChars, List.length_append, List.length_cons] at hfuel
  have hread := hvalue.read rest fuel hrest (by omega)
  have hskip : skipGap (' ' :: (value ++ rest)) = value ++ rest := skipGap_of_begins hvalue.begins rest
  have hname (start : Nat) : readString start
      ((e.1.toList.flatMap escapeChar ++ '"' :: ':' :: ' ' :: (value ++ rest)).length + 1)
      (e.1.toList.flatMap escapeChar ++ '"' :: ':' :: ' ' :: (value ++ rest)) =
        .ok (e.1.toList.map .char, ':' :: ' ' :: (value ++ rest)) := by
    refine readString_stringChars start e.1.toList _ ?_
    have hlength := length_le_length_flatMap e.1.toList
    rw [List.length_append]
    omega
  simp only [stringText, stringChars, List.cons_append, List.append_assoc, List.nil_append]
  rw [Json.readMembers, hname]
  simp only [bind, Except.bind, skipGap_cons (show isGap ':' = false by decide), hskip, hread,
    Value.ofPoints_map_char]
  constructor
  · intro tail htail
    rw [htail]
    rfl
  · intro tail htail
    simp only [htail]
    cases Json.readMembers fuel room (skipGap tail) <;> rfl

/-- The entries as a map has them: of two with one name the later wins. -/
def putAll (entries : List (Value × Value)) : List (Value × Value) :=
  entries.foldl (fun found e => Value.putEntry found e.1 e.2) []

theorem collects_members (room : Nat) :
    Collects room '\x7b' '\x7d' (IsMember room) named (fun fuel cs => readMembers fuel room cs)
      (fun entries => .map (putAll entries)) where
  marks := ⟨⟨'\x7b', [], rfl, by decide, by decide, by decide⟩, by decide, by decide⟩
  begins h := by
    obtain ⟨value, rfl, -⟩ := h
    exact ⟨⟨'"', _, rfl, rfl, by decide, by decide⟩, by simp [stringText, stringChars]⟩
  no_return h := by
    obtain ⟨value, rfl, hvalue⟩ := h
    simp [stringText, not_mem_stringChars, hvalue.no_return]
  last h hrest hfuel hend := (h.readMembers hrest hfuel).1 _ hend
  more h hrest hfuel hnext := (h.readMembers hrest hfuel).2 _ hnext
  empty fuel rest := rfl
  value fuel cs h := by
    have hne (rest : List Char) : skipGap cs ≠ '\x7d' :: rest := fun heq => h (by rw [heq]; rfl)
    simp only [readValue, bind, Except.bind]
    cases readMembers fuel room (skipGap cs) <;> rfl

theorem foldl_putEntry {found entries : List (String × Value)}
    (h : ((found ++ entries).map Prod.fst).Nodup) :
    (entries.map named).foldl (fun found e => Value.putEntry found e.1 e.2) (found.map named) =
      (found ++ entries).map named := by
  induction entries generalizing found with
  | nil => simp
  | cons e entries ih =>
    have hnew : ¬((found.map named).any fun d => Value.sameKey d.1 (.text e.1)) = true := by
      rw [List.map_append, List.nodup_append] at h
      simp only [List.any_map, List.any_eq_true, Function.comp_apply, not_exists, not_and]
      intro d hd hsame
      exact h.2.2 d.1 (List.mem_map_of_mem hd) e.1 (by simp) (eq_of_beq hsame)
    have hput : Value.putEntry (found.map named) (named e).1 (named e).2 = (found ++ [e]).map named := by
      rw [Value.putEntry, Value.putBy, named, if_neg hnew, List.map_append]
      rfl
    rw [List.map_cons, List.foldl_cons, hput, ih (by simpa using h)]
    simp

theorem putAll_of_nodup {entries : List (String × Value)} (h : (entries.map Prod.fst).Nodup) :
    putAll (entries.map named) = entries.map named :=
  @foldl_putEntry [] entries h

/-! ### Printed values -/

theorem forall₂_printItems {level : Nat} {items : List Value} {texts : List (List Char)}
    (hread : ∀ v ∈ items, ∀ lead text, print level lead v = .ok text → Readable room text v)
    (h : printItems level items = .ok texts) : List.Forall₂ (Readable room) texts items := by
  induction items generalizing texts with
  | nil =>
    cases h
    exact .nil
  | cons v items ih =>
    rw [printItems, bind_eq_ok_iff] at h
    obtain ⟨text, htext, h⟩ := h
    obtain ⟨others, hothers, h⟩ := bind_eq_ok_iff.mp h
    cases h
    exact .cons (hread v List.mem_cons_self _ text htext)
      (ih (fun w hw => hread w (List.mem_cons_of_mem v hw)) hothers)

theorem forall₂_printEntries {level : Nat} {entries : List (String × Value)}
    {texts : List (List Char)}
    (hread : ∀ e ∈ entries, ∀ lead text, print level lead e.2 = .ok text → Readable room text e.2)
    (h : printEntries level (entries.map named) = .ok texts) :
    List.Forall₂ (IsMember room) texts entries := by
  induction entries generalizing texts with
  | nil =>
    cases h
    exact .nil
  | cons e entries ih =>
    rw [List.map_cons, named, printEntries, keyText, bind_eq_ok_iff] at h
    obtain ⟨key, hkey, h⟩ := h
    cases hkey
    obtain ⟨value, hvalue, h⟩ := bind_eq_ok_iff.mp h
    obtain ⟨others, hothers, h⟩ := bind_eq_ok_iff.mp h
    cases h
    exact .cons ⟨value, rfl, hread e List.mem_cons_self _ value hvalue⟩
      (ih (fun d hd => hread d (List.mem_cons_of_mem e hd)) hothers)

theorem readable_print {v : Value} (hv : Storable room v) {level lead : Nat} {text : List Char}
    (h : print level lead v = .ok text) : Readable room text v := by
  induction hv generalizing level lead text with
  | null room =>
    cases h
    exact readable_null room
  | bool room b =>
    cases h
    exact readable_bool room b
  | int room n => exact readable_int room h
  | text room s =>
    cases h
    exact readable_text room s
  | @list _ items _ ih =>
    rw [print, bind_eq_ok_iff] at h
    obtain ⟨texts, htexts, h⟩ := h
    cases h
    rw [← List.map_id items]
    exact (collects_items _).readable level (forall₂_printItems (fun v hv lead text => ih v hv) htexts)
  | map hnames _ ih =>
    rw [print, bind_eq_ok_iff] at h
    obtain ⟨texts, htexts, h⟩ := h
    cases h
    rw [← putAll_of_nodup hnames]
    exact (collects_members _).readable level (forall₂_printEntries (fun e he lead text => ih e he) htexts)

/-- A printed document is read as the value that was printed, and has no carriage return. -/
theorem read_document {v : Value} (hv : Storable nestingLimit v) {text : String}
    (h : document v = .ok text) : read text = .ok v ∧ '\r' ∉ text.toList := by
  unfold document at h
  cases hprint : print 0 0 v with
  | error e =>
    rw [hprint] at h
    cases h
  | ok cs =>
    rw [hprint] at h
    cases h
    have hreadable := readable_print hv hprint
    refine ⟨?_, by simp [hreadable.no_return]⟩
    have hread := hreadable.read ['\n'] (2 * (cs ++ ['\n']).length + 2) (by simp [Follows])
      (by rw [List.length_append]; omega)
    have hmark : ((cs ++ ['\n']).head? == some '\ufeff') = false := by
      obtain ⟨c, others, rfl, -, -, hc⟩ := hreadable.begins
      simpa using hc
    have hdocument : readDocument (cs ++ ['\n']) = .ok v := by
      rw [readDocument, hmark, skipGap_of_begins hreadable.begins, hread]
      rfl
    rw [Json.read, String.toList_ofList, hdocument]

end MergeBench.Json
