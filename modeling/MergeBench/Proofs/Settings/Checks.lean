import MergeBench.Proofs.Failure
import MergeBench.Settings.Layers

/-!
Why the winning values are refused. Keys are checked in a fixed order, the first refusal is the one
that counts, and only some values are refused otherwise than by a configuration error.
-/

namespace MergeBench

/-! ### Values that cannot be written -/

namespace Value

/-- With so many values inside each other at most a value cannot be written: in it values stand deeper
than that, or there is an integer with too many digits. -/
inductive UnwritableWithin : Nat → Value → Prop
  | tooDeep (v : Value) : UnwritableWithin 0 v
  | int {room : Nat} {n : Int} (h : Number.digitLimit < (Nat.toDigits 10 n.natAbs).length) :
      UnwritableWithin (room + 1) (.int n)
  | item {room : Nat} {items : List Value} {v : Value} (hv : v ∈ items)
      (h : UnwritableWithin room v) : UnwritableWithin (room + 1) (.list items)
  | first {room : Nat} {a : Value} (b : Value) (h : UnwritableWithin room a) :
      UnwritableWithin (room + 1) (.pair a b)
  | second {room : Nat} (a : Value) {b : Value} (h : UnwritableWithin room b) :
      UnwritableWithin (room + 1) (.pair a b)
  | member {room : Nat} {items : List Value} {v : Value} (hv : v ∈ items)
      (h : UnwritableWithin room v) : UnwritableWithin (room + 1) (.set items)
  | key {room : Nat} {entries : List (Value × Value)} {e : Value × Value} (he : e ∈ entries)
      (h : UnwritableWithin room e.1) : UnwritableWithin (room + 1) (.map entries)
  | entry {room : Nat} {entries : List (Value × Value)} {e : Value × Value} (he : e ∈ entries)
      (h : UnwritableWithin room e.2) : UnwritableWithin (room + 1) (.map entries)

def Unwritable (v : Value) : Prop :=
  UnwritableWithin nestingLimit v

variable {room : Nat}

theorem unwritableWithin_list_iff {items : List Value} :
    UnwritableWithin (room + 1) (list items) ↔ ∃ v ∈ items, UnwritableWithin room v := by
  constructor
  · rintro ⟨⟩
    exact ⟨_, ‹_›, ‹_›⟩
  · rintro ⟨v, hv, h⟩
    exact .item hv h

theorem unwritableWithin_set_iff {items : List Value} :
    UnwritableWithin (room + 1) (set items) ↔ ∃ v ∈ items, UnwritableWithin room v := by
  constructor
  · rintro ⟨⟩
    exact ⟨_, ‹_›, ‹_›⟩
  · rintro ⟨v, hv, h⟩
    exact .member hv h

theorem unwritableWithin_pair_iff {a b : Value} :
    UnwritableWithin (room + 1) (pair a b) ↔ UnwritableWithin room a ∨ UnwritableWithin room b := by
  constructor
  · rintro ⟨⟩
    · exact .inl ‹_›
    · exact .inr ‹_›
  · rintro (h | h)
    · exact .first b h
    · exact .second a h

theorem unwritableWithin_map_iff {entries : List (Value × Value)} :
    UnwritableWithin (room + 1) (map entries) ↔
      ∃ e ∈ entries, UnwritableWithin room e.1 ∨ UnwritableWithin room e.2 := by
  constructor
  · rintro ⟨⟩
    · exact ⟨_, ‹_›, .inl ‹_›⟩
    · exact ⟨_, ‹_›, .inr ‹_›⟩
  · rintro ⟨e, he, h | h⟩
    · exact .key he h
    · exact .entry he h

theorem fails_writeInteger_iff (n : Int) :
    Fails (Number.writeInteger n) ↔ UnwritableWithin (room + 1) (int n) := by
  unfold Number.writeInteger
  dsimp only
  split
  · exact ⟨fun _ => .int ‹_›, fun _ => fails_error _⟩
  · refine ⟨fun h => absurd h (not_fails_ok _), fun h => ?_⟩
    cases h
    contradiction

mutual

theorem fails_writtenWithin_iff (room : Nat) (v : Value) :
    Fails (writtenWithin room v) ↔ UnwritableWithin room v := by
  cases room with
  | zero =>
    rw [writtenWithin]
    exact iff_of_true (fails_error _) (.tooDeep v)
  | succ room =>
    cases v with
    | int n =>
      rw [writtenWithin, fails_mapError_iff]
      exact fails_writeInteger_iff n
    | list items =>
      rw [writtenWithin, fails_bind_iff (p := False) (by simp), fails_writtenItems_iff room items,
        or_false, unwritableWithin_list_iff]
    | pair a b =>
      have hrest : ∀ shown,
          Fails (do return "(" ++ shown ++ ", " ++ (← writtenWithin room b) ++ ")") ↔
            UnwritableWithin room b := by
        intro shown
        rw [fails_bind_iff (p := False) (by simp), fails_writtenWithin_iff room b, or_false]
      rw [writtenWithin, fails_bind_iff hrest, fails_writtenWithin_iff room a,
        unwritableWithin_pair_iff]
    | set items =>
      cases items with
      | nil => simp [writtenWithin, unwritableWithin_set_iff]
      | cons v vs =>
        rw [writtenWithin, fails_bind_iff (p := False) (by simp),
          fails_writtenItems_iff room (v :: vs), or_false, unwritableWithin_set_iff]
        simp
    | map entries =>
      rw [writtenWithin, fails_bind_iff (p := False) (by simp),
        fails_writtenEntries_iff room entries, or_false, unwritableWithin_map_iff]
    | again shape =>
      cases shape <;> simp only [writtenWithin, not_fails_ok, false_iff] <;> rintro ⟨⟩
    | _ =>
      simp only [writtenWithin, not_fails_ok, false_iff]
      rintro ⟨⟩

theorem fails_writtenItems_iff (room : Nat) (items : List Value) :
    Fails (writtenItems room items) ↔ ∃ v ∈ items, UnwritableWithin room v := by
  cases items with
  | nil => simp [writtenItems]
  | cons v vs =>
    have hrest : ∀ shown, Fails (do return shown :: (← writtenItems room vs)) ↔
        ∃ v ∈ vs, UnwritableWithin room v := by
      intro shown
      rw [fails_bind_iff (p := False) (by simp), fails_writtenItems_iff room vs, or_false]
    rw [writtenItems, fails_bind_iff hrest, fails_writtenWithin_iff room v]
    simp

theorem fails_writtenEntries_iff (room : Nat) (entries : List (Value × Value)) :
    Fails (writtenEntries room entries) ↔
      ∃ e ∈ entries, UnwritableWithin room e.1 ∨ UnwritableWithin room e.2 := by
  cases entries with
  | nil => simp [writtenEntries]
  | cons e es =>
    obtain ⟨k, v⟩ := e
    have hlast : ∀ key value : String,
        Fails (do return (key ++ ": " ++ value) :: (← writtenEntries room es)) ↔
          ∃ e ∈ es, UnwritableWithin room e.1 ∨ UnwritableWithin room e.2 := by
      intro key value
      rw [fails_bind_iff (p := False) (by simp), fails_writtenEntries_iff room es, or_false]
    have hrest : ∀ key : String,
        Fails (do
          let value ← writtenWithin room v
          return (key ++ ": " ++ value) :: (← writtenEntries room es)) ↔
          UnwritableWithin room v ∨
            ∃ e ∈ es, UnwritableWithin room e.1 ∨ UnwritableWithin room e.2 := by
      intro key
      rw [fails_bind_iff (hlast key), fails_writtenWithin_iff room v]
    rw [writtenEntries, fails_bind_iff hrest, fails_writtenWithin_iff room k]
    simp [or_assoc]

end

theorem fails_written_iff (v : Value) : Fails v.written ↔ v.Unwritable :=
  fails_writtenWithin_iff nestingLimit v

theorem fails_plain_iff (v : Value) : Fails v.plain ↔ v.Unwritable := by
  rw [← fails_written_iff]
  cases v <;> simp [plain, written, writtenWithin, nestingLimit]

theorem not_unwritable_of_written {v : Value} {s : String} (h : v.written = .ok s) :
    ¬v.Unwritable := by
  rw [← fails_written_iff, h]
  exact not_fails_ok s

end Value

namespace Settings

/-! ### Reading the value of a key -/

@[simp]
theorem not_strays_failed {α : Type} (e : ConfigError) : ¬Strays (failed e : Except Fault α) :=
  not_strays_config e

theorem strays_plainText_iff (v : Value) : Strays (plainText v) ↔ v.Unwritable := by
  rw [plainText, strays_mapError_iff (by simp), Value.fails_plain_iff]

theorem strays_mapM_plainText_iff (items : List Value) :
    Strays (items.mapM plainText) ↔ ∃ v ∈ items, v.Unwritable := by
  induction items with
  | nil => simp
  | cons v vs ih =>
    have hrest : ∀ s, Strays (vs.mapM plainText >>= fun rest => pure (s :: rest)) ↔
        ∃ v ∈ vs, v.Unwritable := by
      intro s
      rw [strays_bind_of_forall_not fun _ => not_strays_pure _, ih]
    -- the rest of the list is read only after the first text
    have hfirst : (∃ s, plainText v = .ok s) ∨ v.Unwritable := by
      cases hv : plainText v with
      | ok s => exact .inl ⟨s, rfl⟩
      | error f =>
        rw [← Value.fails_plain_iff]
        cases hplain : v.plain <;> simp [plainText, hplain] at hv ⊢
    rw [List.mapM_cons, strays_bind_iff, strays_plainText_iff]
    simp only [hrest, List.mem_cons, exists_eq_or_imp]
    constructor
    · rintro (h | ⟨-, -, h⟩)
      · exact .inl h
      · exact .inr h
    · rintro (h | h)
      · exact .inl h
      · rcases hfirst with ⟨s, hs⟩ | hlong
        · exact .inr ⟨s, hs, h⟩
        · exact .inl hlong

theorem strays_nonemptyText_iff (key : Key) (v : Value) :
    Strays (nonemptyText key v) ↔ v.Unwritable := by
  unfold nonemptyText
  rw [strays_bind_of_forall_not, strays_plainText_iff]
  intro s
  split <;> simp

/-- The values that stand for the words of a command. -/
def wordValues : Value → List Value
  | .list items => items
  | .pair a b => [a, b]
  | _ => []

theorem strays_splitCommand_iff (key : String) (v : Value) :
    Strays (splitCommand key v) ↔
      (∃ s, v.name? = some s ∧ Fails (ShellWords.split s)) ∨ ∃ w ∈ wordValues v, w.Unwritable := by
  have hrest : ∀ words : List String,
      ¬Strays (if words.isEmpty then failed (.emptyCommand key) else .ok words) := by
    intro words
    split <;> simp
  unfold splitCommand
  dsimp only
  split
  · rw [strays_bind_of_forall_not hrest, strays_mapError_iff (by simp)]
    simp [Value.name?, wordValues]
  · rw [strays_bind_of_forall_not hrest, strays_mapError_iff (by simp)]
    simp [Value.name?, wordValues]
  · rw [strays_bind_of_forall_not hrest, strays_mapM_plainText_iff]
    simp [Value.name?, wordValues]
  · rw [strays_bind_of_forall_not hrest, strays_mapM_plainText_iff]
    simp [Value.name?, wordValues]
  · rw [strays_bind_of_forall_not hrest]
    cases v <;> simp_all [Value.name?, wordValues]

/-- What is no number of seconds is shown in the refusal, as far as it can be shown. -/
theorem strays_wholeSeconds_iff (v : Value) :
    Strays (wholeSeconds v) ↔
      (∃ negative, v = .float (.infinite negative)) ∨ ((∀ n, v ≠ .int n) ∧ v.Unwritable) := by
  have hrefused : Strays (do failed (.timeoutNotInteger (← v.written.mapError Fault.unwritable)) :
      Except Fault Int) ↔ v.Unwritable := by
    rw [strays_bind_of_forall_not (by simp), strays_mapError_iff (by simp), Value.fails_written_iff]
  unfold wholeSeconds
  dsimp only
  cases v with
  | int n => simp
  | bool b =>
    have hleaf := Value.not_unwritable_of_written (v := .bool b) rfl
    simp [hleaf]
  | float x =>
    cases x with
    | infinite negative => simp [Strays]
    | notANumber => simpa [Number.Binary64.truncate?] using hrefused
    | finite negative mantissa exponent =>
      have hleaf := Value.not_unwritable_of_written (v := .float (.finite negative mantissa exponent)) rfl
      simp [Number.Binary64.truncate?, hleaf]
  | text s =>
    have hleaf := Value.not_unwritable_of_written (v := .text s) rfl
    simp only [hleaf, and_false, or_false, reduceCtorEq, exists_false, iff_false]
    split
    · exact not_strays_ok _
    · exact mt hrefused.mp hleaf
  | bytes bs =>
    have hleaf := Value.not_unwritable_of_written (v := .bytes bs) rfl
    simp only [hleaf, and_false, or_false, reduceCtorEq, exists_false, iff_false]
    split
    · split
      · exact not_strays_ok _
      · exact mt hrefused.mp hleaf
    · exact mt hrefused.mp hleaf
  -- all other values are refused as they are
  | _ => simpa using hrefused

theorem strays_asTimeout_iff (v : Value) :
    Strays (asTimeout v) ↔
      Strays (wholeSeconds v) ∨ ∃ n, wholeSeconds v = .ok n ∧ n < 0 ∧ (Value.int n).Unwritable := by
  have hrest : ∀ n : Int, Strays (if n < 0 then
      (do failed (.negativeTimeout (← plainText (.int n)))) else .ok n : Except Fault Int) ↔
        n < 0 ∧ (Value.int n).Unwritable := by
    intro n
    split
    · rw [strays_bind_of_forall_not (by simp), strays_plainText_iff]
      simp [*]
    · simp [*]
  unfold asTimeout
  rw [strays_bind_iff]
  simp only [hrest]

/-! ### The first refusal -/

def Key.isCommand : Key → Bool
  | .benchCommand | .compareCommand => true
  | _ => false

/-- What is wrong with a value as the value of a key. -/
def Key.refusal? : Key → Value → Option Fault
  | .benchCommand, v => errorOf (splitCommand Key.benchCommand.name v)
  | .compareCommand, v => errorOf (splitCommand Key.compareCommand.name v)
  | .timeout, v => errorOf (asTimeout v)
  | .git, v => errorOf (plainText v)
  | key, v => errorOf (nonemptyText key v)

/-- The keys in the order in which their values are checked. -/
def checkOrder : List Key :=
  [.benchCommand, .compareCommand, .timeout, .git, .remote, .benchesDir, .flagVariable,
    .branchVariable, .sentinel]

def firstRefusal (winner : Key → Option Value) (keys : List Key) : Option Fault :=
  keys.findSome? fun key => (winner key).bind key.refusal?

variable {winner : Key → Option Value}

theorem errorOf_pick_bind {α β : Type} {key : Key} {keys : List Key} {default : α}
    {read : Value → Except Fault α} {next : α → Except Fault β}
    (hread : ∀ v, key.refusal? v = errorOf (read v))
    (hnext : ∀ a, errorOf (next a) = firstRefusal winner keys) :
    errorOf (pick winner key default read >>= next) = firstRefusal winner (key :: keys) := by
  unfold firstRefusal
  rw [List.findSome?_cons]
  cases hwinner : winner key with
  | none =>
    simp only [pick, hwinner, Option.bind_none]
    exact hnext default
  | some v =>
    simp only [pick, hwinner, Option.bind_some, hread]
    cases read v with
    | error f => rfl
    | ok a => exact hnext a

theorem errorOf_ofWinners (root : Path) (winner : Key → Option Value) :
    errorOf (ofWinners root winner) = firstRefusal winner checkOrder := by
  unfold ofWinners pickText
  -- every line reads the next key of the order
  refine errorOf_pick_bind (fun _ => rfl) fun benchCommand => ?_
  refine errorOf_pick_bind (fun _ => rfl) fun compareCommand => ?_
  refine errorOf_pick_bind (fun _ => rfl) fun timeout => ?_
  refine errorOf_pick_bind (fun _ => rfl) fun git => ?_
  refine errorOf_pick_bind (fun _ => rfl) fun remote => ?_
  refine errorOf_pick_bind (fun _ => rfl) fun benchesDir => ?_
  refine errorOf_pick_bind (fun _ => rfl) fun flagVariable => ?_
  refine errorOf_pick_bind (fun _ => rfl) fun branchVariable => ?_
  exact errorOf_pick_bind (fun _ => rfl) fun sentinel => rfl

/-- The values whose refusal is no configuration error. -/
inductive Unreported : Key → Value → Prop
  /-- A command whose words cannot be told apart. -/
  | words {key : Key} {v : Value} {s : String} (hkey : key.isCommand = true)
      (hv : v.name? = some s) (h : Fails (ShellWords.split s)) : Unreported key v
  | word {key : Key} {v w : Value} (hkey : key.isCommand = true) (hw : w ∈ wordValues v)
      (h : w.Unwritable) : Unreported key v
  | endless (negative : Bool) : Unreported .timeout (.float (.infinite negative))
  | seconds {v : Value} (hv : ∀ n, v ≠ .int n) (h : v.Unwritable) : Unreported .timeout v
  | negative {v : Value} {n : Int} (hv : wholeSeconds v = .ok n) (hn : n < 0)
      (h : (Value.int n).Unwritable) : Unreported .timeout v
  | text {key : Key} {v : Value} (hkey : key.isCommand = false) (htimeout : key ≠ .timeout)
      (h : v.Unwritable) : Unreported key v

theorem unreported_iff_of_isCommand {key : Key} (hkey : key.isCommand = true) (v : Value) :
    Unreported key v ↔ Strays (splitCommand key.name v) := by
  rw [strays_splitCommand_iff]
  constructor
  · rintro (⟨-, hv, h⟩ | ⟨-, hw, h⟩ | _ | _ | _ | ⟨hnot, -, -⟩)
    · exact .inl ⟨_, hv, h⟩
    · exact .inr ⟨_, hw, h⟩
    · cases hkey
    · cases hkey
    · cases hkey
    · exact absurd hkey (by simp [hnot])
  · rintro (⟨s, hv, h⟩ | ⟨w, hw, h⟩)
    · exact .words hkey hv h
    · exact .word hkey hw h

theorem unreported_timeout_iff (v : Value) : Unreported .timeout v ↔ Strays (asTimeout v) := by
  rw [strays_asTimeout_iff, strays_wholeSeconds_iff]
  constructor
  · rintro (⟨hkey, -, -⟩ | ⟨hkey, -, -⟩ | negative | ⟨hv, h⟩ | ⟨hv, hn, h⟩ | ⟨-, htimeout, -⟩)
    · cases hkey
    · cases hkey
    · exact .inl (.inl ⟨negative, rfl⟩)
    · exact .inl (.inr ⟨hv, h⟩)
    · exact .inr ⟨_, hv, hn, h⟩
    · exact absurd rfl htimeout
  · rintro ((⟨negative, rfl⟩ | ⟨hv, h⟩) | ⟨n, hv, hn, h⟩)
    · exact .endless negative
    · exact .seconds hv h
    · exact .negative hv hn h

theorem unreported_iff_unwritable {key : Key} (hkey : key.isCommand = false)
    (htimeout : key ≠ .timeout) (v : Value) : Unreported key v ↔ v.Unwritable := by
  refine ⟨?_, .text hkey htimeout⟩
  rintro (⟨hcommand, -, -⟩ | ⟨hcommand, -, -⟩ | _ | _ | _ | ⟨-, -, h⟩)
  · simp [hkey] at hcommand
  · simp [hkey] at hcommand
  · exact absurd rfl htimeout
  · exact absurd rfl htimeout
  · exact absurd rfl htimeout
  · exact h

theorem unreported_iff (key : Key) (v : Value) :
    Unreported key v ↔ ∃ f, key.refusal? v = some f ∧ ∀ e, f ≠ .config e := by
  cases key with
  | benchCommand => exact (unreported_iff_of_isCommand rfl v).trans strays_iff_errorOf
  | compareCommand => exact (unreported_iff_of_isCommand rfl v).trans strays_iff_errorOf
  | timeout => exact (unreported_timeout_iff v).trans strays_iff_errorOf
  | git =>
    rw [unreported_iff_unwritable rfl (by decide), ← strays_plainText_iff]
    exact strays_iff_errorOf
  | remote | benchesDir | flagVariable | branchVariable | sentinel =>
    rw [unreported_iff_unwritable rfl (by decide), ← strays_nonemptyText_iff]
    exact strays_iff_errorOf

/-- Of the values that are refused the first one decides whether the settings stray. -/
theorem strays_ofWinners_iff (root : Path) (winner : Key → Option Value) :
    Strays (ofWinners root winner) ↔
      ∃ before key after v, checkOrder = before ++ key :: after ∧
        (∀ k ∈ before, (winner k).bind k.refusal? = none) ∧ winner key = some v ∧
        Unreported key v := by
  rw [strays_iff_errorOf, errorOf_ofWinners, firstRefusal]
  simp only [List.findSome?_eq_some_iff, Option.bind_eq_some_iff, unreported_iff]
  constructor
  · rintro ⟨f, ⟨before, key, after, horder, ⟨v, hv, hrefusal⟩, hbefore⟩, hf⟩
    exact ⟨before, key, after, v, horder, hbefore, hv, f, hrefusal, hf⟩
  · rintro ⟨before, key, after, v, horder, hbefore, hv, f, hrefusal, hf⟩
    exact ⟨f, ⟨before, key, after, horder, ⟨v, hv, hrefusal⟩, hbefore⟩, hf⟩

end Settings

end MergeBench
