import Mathlib.Data.List.Forall2
import MergeBench.Proofs.Settings.Loading

/-!
Which layer has the last word. Every key has one winner among the layers; the settings or the fault
depend on the winners alone, and a setting on the winner of its own key alone.
-/

namespace MergeBench.Settings

/-! ### Winners -/

namespace Layers

variable {l : Layers} {key : Key} {w : Option Value}

/-- An override that is null is none. -/
def Overrides (l : Layers) (key : Key) (v : Value) : Prop :=
  l.overrides.lookup key.name = some v ∧ v ≠ .null

/-- The key has a variable, and it is set to a text that is not empty. -/
def Sets (l : Layers) (key : Key) (s : String) : Prop :=
  ∃ name, key.environmentName? = some name ∧ l.vars name = some s ∧ s ≠ ""

/-- The file has an entry for the key, be it null. -/
def Files (l : Layers) (key : Key) (v : Value) : Prop :=
  ∃ k, l.file.find? (fun entry => entry.1.sameKey (.text key.name)) = some (k, v)

/-- Overrides win over variables, and these over the file. -/
inductive Wins (l : Layers) (key : Key) : Option Value → Prop
  | override {v : Value} (h : l.Overrides key v) : Wins l key (some v)
  | variable {s : String} (hover : ∀ v, ¬l.Overrides key v) (h : l.Sets key s) :
      Wins l key (some (.text s))
  | file {v : Value} (hover : ∀ v, ¬l.Overrides key v) (hset : ∀ s, ¬l.Sets key s)
      (h : l.Files key v) : Wins l key (some v)
  | absent (hover : ∀ v, ¬l.Overrides key v) (hset : ∀ s, ¬l.Sets key s)
      (hfile : ∀ v, ¬l.Files key v) : Wins l key none

theorem override?_eq_some_iff {v : Value} : l.override? key = some v ↔ l.Overrides key v := by
  unfold override? Overrides
  cases l.overrides.lookup key.name with
  | none => simp
  | some given =>
    cases given with
    | null =>
      simp only [Option.some.injEq, reduceCtorEq, false_iff, not_and, not_not]
      exact Eq.symm
    | _ =>
      simp only [Option.some.injEq, iff_self_and]
      rintro rfl
      exact Value.noConfusion

theorem fromEnvironment?_eq_some_iff {v : Value} :
    l.fromEnvironment? key = some v ↔ ∃ s, v = .text s ∧ l.Sets key s := by
  unfold fromEnvironment? Sets nonempty?
  simp only [Option.map_eq_some_iff, Option.bind_eq_some_iff, Option.filter_eq_some_iff, bne_iff_ne]
  constructor
  · rintro ⟨s, ⟨name, hname, hs⟩, rfl⟩
    exact ⟨s, rfl, name, hname, hs⟩
  · rintro ⟨s, rfl, name, hname, hs⟩
    exact ⟨s, ⟨name, hname, hs⟩, rfl⟩

theorem entry_eq_some_iff {v : Value} : l.entry? key = some v ↔ l.Files key v := by
  simp [Layers.entry?, Files]

theorem override?_eq_none_iff : l.override? key = none ↔ ∀ v, ¬l.Overrides key v := by
  simp only [← override?_eq_some_iff, Option.eq_none_iff_forall_ne_some, ne_eq]

theorem fromEnvironment?_eq_none_iff : l.fromEnvironment? key = none ↔ ∀ s, ¬l.Sets key s := by
  simp only [Option.eq_none_iff_forall_ne_some, ne_eq, fromEnvironment?_eq_some_iff]
  constructor
  · intro h s hs
    exact h (.text s) ⟨s, rfl, hs⟩
  · rintro h _ ⟨s, rfl, hs⟩
    exact h s hs

theorem entry_eq_none_iff : l.entry? key = none ↔ ∀ v, ¬l.Files key v := by
  simp only [← entry_eq_some_iff, Option.eq_none_iff_forall_ne_some, ne_eq]

theorem wins_winner (l : Layers) (key : Key) : l.Wins key (l.winner key) := by
  unfold winner
  cases hover : l.override? key with
  | some v => exact .override (override?_eq_some_iff.mp hover)
  | none =>
    have hnot := override?_eq_none_iff.mp hover
    cases hset : l.fromEnvironment? key with
    | some v =>
      obtain ⟨s, rfl, hs⟩ := fromEnvironment?_eq_some_iff.mp hset
      exact .variable hnot hs
    | none =>
      have hunset := fromEnvironment?_eq_none_iff.mp hset
      cases hfile : l.entry? key with
      | some v => exact .file hnot hunset (entry_eq_some_iff.mp hfile)
      | none => exact .absent hnot hunset (entry_eq_none_iff.mp hfile)

theorem wins_iff : l.Wins key w ↔ w = l.winner key := by
  constructor
  · unfold winner
    rintro (h | ⟨hnot, h⟩ | ⟨hnot, hunset, h⟩ | ⟨hnot, hunset, hmissing⟩)
    · rw [override?_eq_some_iff.mpr h]
      rfl
    · rw [override?_eq_none_iff.mpr hnot, fromEnvironment?_eq_some_iff.mpr ⟨_, rfl, h⟩]
      rfl
    · rw [override?_eq_none_iff.mpr hnot, fromEnvironment?_eq_none_iff.mpr hunset,
        entry_eq_some_iff.mpr h]
      rfl
    · rw [override?_eq_none_iff.mpr hnot, fromEnvironment?_eq_none_iff.mpr hunset,
        entry_eq_none_iff.mpr hmissing]
      rfl
  · rintro rfl
    exact wins_winner l key

end Layers

/-! ### Settings of winners -/

def TextForm (v : Value) (text : String) : Prop :=
  v.plain = .ok text

def FullTextForm (v : Value) (text : String) : Prop :=
  v.plain = .ok text ∧ text ≠ ""

/-- The words of a command: a text is split, the members of a list stand for one word each. -/
inductive Words : Value → List String → Prop
  | text {v : Value} {s : String} {words : List String} (hv : v.name? = some s)
      (h : ShellWords.split s = .ok words) : Words v words
  | list {items : List Value} {words : List String}
      (h : List.Forall₂ TextForm items words) : Words (.list items) words
  | pair {a b : Value} {first second : String} (ha : TextForm a first) (hb : TextForm b second) :
      Words (.pair a b) [first, second]

inductive Seconds : Value → Int → Prop
  | int (n : Int) : Seconds (.int n) n
  | bool (b : Bool) : Seconds (.bool b) b.toNat
  | float {x : Number.Binary64} {n : Int} (h : x.truncate? = some n) : Seconds (.float x) n
  | text {s : String} {n : Int} (h : Number.readInteger 10 s = .ok n) : Seconds (.text s) n
  | bytes {bs : Bytes} {n : Int} (hascii : ∀ b ∈ bs, b < 128)
      (h : Number.readInteger 10 (String.ofList (bs.map fun b => Char.ofNat b.toNat)) = .ok n) :
      Seconds (.bytes bs) n

def CommandForm (v : Value) (words : List String) : Prop :=
  Words v words ∧ words ≠ []

def TimeoutForm (v : Value) (n : Int) : Prop :=
  Seconds v n ∧ 0 ≤ n

/-- A setting is the default of its key, or what the winning value comes to. -/
def Comes {α : Type} (form : Value → α → Prop) (default : α) (winner : Option Value) (a : α) : Prop :=
  match winner with
  | none => a = default
  | some v => form v a

/-- What the setting of a key is for the winner of the key. -/
def Shows (s : Loaded) (winner : Option Value) : Key → Prop
  | .benchCommand => Comes CommandForm ["cargo", "bench"] winner s.benchCommand
  | .compareCommand => Comes CommandForm ["cargo", "benchcmp"] winner s.compareCommand
  | .git => Comes TextForm "git" winner s.git
  | .remote => Comes FullTextForm "origin" winner s.remote
  | .benchesDir => Comes FullTextForm "benches" winner s.benchesDir
  | .flagVariable =>
    Comes FullTextForm "TRAVIS_PULL_REQUEST" winner s.flagVariable ∧ s.flagError = nameError? winner
  | .branchVariable =>
    Comes FullTextForm "TRAVIS_BRANCH" winner s.branchVariable ∧ s.branchError = nameError? winner
  | .sentinel => Comes FullTextForm "false" winner s.sentinel
  | .timeout => Comes TimeoutForm 0 winner s.timeout

theorem plainText_eq_ok_iff {v : Value} {text : String} :
    plainText v = .ok text ↔ TextForm v text := by
  unfold plainText TextForm
  cases v.plain <;> simp

theorem mapM_plainText_eq_ok_iff {items : List Value} {words : List String} :
    items.mapM plainText = .ok words ↔ List.Forall₂ TextForm items words := by
  induction items generalizing words with
  | nil => simp [pure, Except.pure, eq_comm]
  | cons v vs ih =>
    rw [List.mapM_cons, List.forall₂_cons_left_iff]
    simp only [bind_eq_ok_iff, plainText_eq_ok_iff, ih, pure, Except.pure, Except.ok.injEq]
    constructor
    · rintro ⟨word, hv, rest, hrest, rfl⟩
      exact ⟨word, rest, hv, hrest, rfl⟩
    · rintro ⟨word, rest, hv, hrest, rfl⟩
      exact ⟨word, hv, rest, hrest, rfl⟩

theorem words_iff_of_name? {v : Value} {s : String} (h : v.name? = some s) {words : List String} :
    Words v words ↔ ShellWords.split s = .ok words := by
  constructor
  · rintro (⟨hs, hwords⟩ | _ | _)
    · cases h.symm.trans hs
      exact hwords
    · cases h
    · cases h
  · exact .text h

theorem words_list_iff {items : List Value} {words : List String} :
    Words (.list items) words ↔ List.Forall₂ TextForm items words := by
  constructor
  · rintro (⟨hs, -⟩ | h | _)
    · cases hs
    · exact h
  · exact .list

theorem words_pair_iff {a b : Value} {words : List String} :
    Words (.pair a b) words ↔ List.Forall₂ TextForm [a, b] words := by
  constructor
  · rintro (⟨hs, -⟩ | _ | ⟨ha, hb⟩)
    · cases hs
    · exact .cons ha (.cons hb .nil)
  · rintro (_ | ⟨ha, _ | ⟨hb, _ | _⟩⟩)
    exact .pair ha hb

theorem splitCommand_eq_ok_iff {key : String} {v : Value} {words : List String} :
    splitCommand key v = .ok words ↔ CommandForm v words := by
  have hfull : ∀ found : List String,
      (if found.isEmpty then failed (.emptyCommand key) else .ok found) = Except.ok words ↔
        found = words ∧ words ≠ [] := by
    intro found
    cases found with
    | nil => simp [failed, eq_comm]
    | cons word rest =>
      simp only [List.isEmpty_cons, Bool.false_eq_true, ↓reduceIte, Except.ok.injEq, iff_self_and]
      rintro rfl
      simp
  unfold splitCommand CommandForm
  dsimp only
  split
  · simp only [bind_eq_ok_iff, hfull, mapError_eq_ok_iff, words_iff_of_name? (v := .text _) rfl]
    simp
  · simp only [bind_eq_ok_iff, hfull, mapError_eq_ok_iff, words_iff_of_name? (v := .brokenText _) rfl]
    simp
  · simp only [bind_eq_ok_iff, hfull, mapM_plainText_eq_ok_iff, words_list_iff]
    simp
  · simp only [bind_eq_ok_iff, hfull, mapM_plainText_eq_ok_iff, words_pair_iff]
    simp
  · simp only [bind_eq_ok_iff, failed, reduceCtorEq, false_and, exists_false, false_iff, not_and]
    rintro ⟨hs, -⟩
    · cases v <;> simp_all [Value.name?]
    · simp_all
    · simp_all

theorem wholeSeconds_eq_ok_iff {v : Value} {n : Int} : wholeSeconds v = .ok n ↔ Seconds v n := by
  have hrefused : ∀ v : Value, (do failed (.timeoutNotInteger (← v.written.mapError Fault.unwritable)) :
      Except Fault Int) ≠ .ok n := by
    intro v h
    obtain ⟨shown, -, h⟩ := bind_eq_ok_iff.mp h
    cases h
  unfold wholeSeconds
  dsimp only
  constructor
  · intro h
    cases v with
    | int k =>
      cases h
      exact .int n
    | bool b =>
      cases h
      exact .bool b
    | float x =>
      cases x with
      | infinite negative => cases h
      | notANumber => exact absurd h (hrefused (.float .notANumber))
      | finite negative mantissa exponent =>
        cases h
        exact .float rfl
    | text s =>
      dsimp only at h
      split at h
      · rename_i hread
        cases h
        exact .text hread
      · exact absurd h (hrefused (.text s))
    | bytes bs =>
      dsimp only at h
      split at h
      · rename_i hascii
        split at h
        · rename_i hread
          cases h
          exact .bytes (by simpa using hascii) hread
        · exact absurd h (hrefused (.bytes bs))
      · exact absurd h (hrefused (.bytes bs))
    | _ =>
      -- all other values are refused as they are
      dsimp only at h
      exact absurd h (hrefused _)
  · rintro (_ | _ | h | h | ⟨hascii, h⟩)
    · rfl
    · rfl
    · rename_i x
      cases x with
      | infinite negative => cases h
      | notANumber => cases h
      | finite negative mantissa exponent =>
        cases h
        rfl
    · dsimp only
      rw [h]
    · dsimp only
      rw [if_pos (by simpa using hascii), h]

theorem asTimeout_eq_ok_iff {v : Value} {n : Int} : asTimeout v = .ok n ↔ TimeoutForm v n := by
  have hnonnegative : ∀ k : Int, (if k < 0 then
      (do failed (.negativeTimeout (← plainText (.int k)))) else .ok k : Except Fault Int) = .ok n ↔
        k = n ∧ 0 ≤ n := by
    intro k
    by_cases hk : k < 0
    · rw [if_pos hk, bind_eq_ok_iff]
      constructor
      · rintro ⟨shown, -, h⟩
        cases h
      · rintro ⟨rfl, h⟩
        omega
    · rw [if_neg hk, Except.ok.injEq]
      constructor
      · rintro rfl
        exact ⟨rfl, by omega⟩
      · exact And.left
  unfold asTimeout TimeoutForm
  simp only [bind_eq_ok_iff, hnonnegative, wholeSeconds_eq_ok_iff]
  simp

theorem nonemptyText_eq_ok_iff {key : Key} {v : Value} {text : String} :
    nonemptyText key v = .ok text ↔ FullTextForm v text := by
  have hfull : ∀ s : String, (if s == "" then failed (.emptyText key.name) else .ok s) =
      Except.ok text ↔ s = text ∧ text ≠ "" := by
    intro s
    by_cases hs : s = ""
    · subst hs
      simp [failed, eq_comm]
    · simp only [beq_iff_eq, hs, ↓reduceIte, Except.ok.injEq, iff_self_and]
      rintro rfl
      exact hs
  unfold nonemptyText FullTextForm
  simp only [bind_eq_ok_iff, hfull, plainText_eq_ok_iff, TextForm]
  simp

theorem pick_eq_ok_iff {α : Type} (form : Value → α → Prop) {winner : Key → Option Value} {key : Key}
    {default a : α} {read : Value → Except Fault α} (hread : ∀ v, read v = .ok a ↔ form v a) :
    pick winner key default read = .ok a ↔ Comes form default (winner key) a := by
  unfold pick Comes
  cases winner key with
  | none => simp [eq_comm]
  | some v => exact hread v

/-- There are settings where every winner has a form that its key takes, and they show these forms. -/
theorem ofWinners_eq_ok_iff {root : Path} {winner : Key → Option Value} {s : Loaded} :
    ofWinners root winner = .ok s ↔ s.root = root ∧ ∀ key, Shows s (winner key) key := by
  unfold ofWinners pickText
  simp only [bind_eq_ok_iff, pick_eq_ok_iff CommandForm fun _ => splitCommand_eq_ok_iff,
    pick_eq_ok_iff TimeoutForm fun _ => asTimeout_eq_ok_iff,
    pick_eq_ok_iff TextForm fun _ => plainText_eq_ok_iff,
    pick_eq_ok_iff FullTextForm fun _ => nonemptyText_eq_ok_iff, pure, Except.pure, Except.ok.injEq]
  constructor
  · rintro ⟨bench, hbench, compare, hcompare, timeout, htimeout, git, hgit, remote, hremote, benches,
      hbenches, flag, hflag, branch, hbranch, sentinel, hsentinel, rfl⟩
    refine ⟨rfl, fun key => ?_⟩
    cases key with
    | flagVariable => exact ⟨hflag, rfl⟩
    | branchVariable => exact ⟨hbranch, rfl⟩
    | _ => assumption
  · rintro ⟨rfl, h⟩
    obtain ⟨hflag, hflagError⟩ := h .flagVariable
    obtain ⟨hbranch, hbranchError⟩ := h .branchVariable
    refine ⟨_, h .benchCommand, _, h .compareCommand, _, h .timeout, _, h .git, _, h .remote, _,
      h .benchesDir, _, hflag, _, hbranch, _, h .sentinel, ?_⟩
    rw [← hflagError, ← hbranchError]

theorem Comes.unique {α : Type} {form : Value → α → Prop} {default a b : α} {winner : Option Value}
    {read : Value → Except Fault α} (hread : ∀ v x, read v = .ok x ↔ form v x)
    (ha : Comes form default winner a) (hb : Comes form default winner b) : b = a := by
  cases winner with
  | none => exact Eq.trans hb (Eq.symm ha)
  | some v =>
    have hab : Except.ok b = Except.ok a := ((hread v b).mpr hb).symm.trans ((hread v a).mpr ha)
    exact Except.ok.inj hab

/-- The configuration file that is found holds these entries, or there is none and so no entry. -/
inductive Supplies (m : Machine) (given : Option String) (vars : Variables) (root : Path) :
    List (Value × Value) → Prop
  | none (h : answer (filePath? given vars root) m = .ok none) : Supplies m given vars root []
  | file {location : Path} {content : Bytes} {entries : List (Value × Value)}
      (h : FileFound m given vars root location content)
      (hentries : readContent location content = .ok entries) : Supplies m given vars root entries

variable {m m' : Machine} {given given' : Option String} {vars vars' : Variables} {root : Path}
  {entries entries' : List (Value × Value)}

theorem answer_load_of_supplies (h : Supplies m given vars root entries)
    (overrides : List (String × Value)) :
    answer (load given vars overrides root) m =
      ofWinners root (⟨overrides, vars, entries⟩ : Layers).winner := by
  cases h with
  | none h =>
    rw [load_eq, (quiet_filePath? given vars root).answer_bind (quiet_loadFrom vars overrides root), h]
    exact answer_resolveLayers root _ m
  | file h hentries =>
    rw [answer_load h, ofContent, hentries]
    rfl

/-- Loading from these layers comes to this on some machine, with the file on some way. -/
def Loads (root : Path) (l : Layers) (r : Except Fault Loaded) : Prop :=
  ∃ m given, Supplies m given l.vars root l.file ∧
    answer (load given l.vars l.overrides root) m = r

theorem Loads.eq {l : Layers} {r : Except Fault Loaded} (h : Loads root l r) :
    ofWinners root l.winner = r := by
  obtain ⟨m, given, hsupplies, hr⟩ := h
  rw [← hr, answer_load_of_supplies hsupplies]

end MergeBench.Settings
