import MergeBench.Proofs.Settings.Precedence
import MergeBench.Proofs.Text.Utf8
import MergeBench.Proofs.Yaml.Entry
import MergeBench.Proofs.Yaml.Integer

/-!
A plain scalar in the configuration file against the same text as an override. In the file the scalar
gets a type before it becomes a setting; an override is text and stays text. The outcomes are the same
where the type is text, and else where the value comes to what the text comes to.
-/

namespace MergeBench.Settings

variable {root location : Path} {key : Key} {v : Value} {text shown : String}

/-! ### Settings of a single value -/

/-- The winners if the layers hold one value. -/
def only (key : Key) (v : Value) (other : Key) : Option Value :=
  if other = key then some v else none

/-- The defaults, with a value in place of one of them. -/
def ofValue (root : Path) : Key → Value → Except Fault Loaded
  | .benchCommand, v =>
    (splitCommand Key.benchCommand.name v).map fun words => { benchCommand := words, root := root }
  | .compareCommand, v =>
    (splitCommand Key.compareCommand.name v).map fun words => { compareCommand := words, root := root }
  | .git, v => (plainText v).map fun s => { git := s, root := root }
  | .remote, v => (nonemptyText .remote v).map fun s => { remote := s, root := root }
  | .benchesDir, v => (nonemptyText .benchesDir v).map fun s => { benchesDir := s, root := root }
  | .flagVariable, v => (nonemptyText .flagVariable v).map fun s =>
      { flagVariable := s, root := root, flagError := v.systemError? }
  | .branchVariable, v => (nonemptyText .branchVariable v).map fun s =>
      { branchVariable := s, root := root, branchError := v.systemError? }
  | .sentinel, v => (nonemptyText .sentinel v).map fun s => { sentinel := s, root := root }
  | .timeout, v => (asTimeout v).map fun n => { root := root, timeout := n }

theorem ofWinners_only (root : Path) (key : Key) (v : Value) :
    ofWinners root (only key v) = ofValue root key v := by
  cases key with
  | benchCommand | compareCommand =>
    simp only [ofWinners, pickText, pick, only, ofValue, reduceCtorEq, ↓reduceIte]
    cases splitCommand _ v <;> rfl
  | timeout =>
    simp only [ofWinners, pickText, pick, only, ofValue, reduceCtorEq, ↓reduceIte]
    cases asTimeout v <;> rfl
  | git =>
    simp only [ofWinners, pickText, pick, only, ofValue, reduceCtorEq, ↓reduceIte]
    cases plainText v <;> rfl
  | remote | benchesDir | flagVariable | branchVariable | sentinel =>
    simp only [ofWinners, pickText, pick, only, ofValue, reduceCtorEq, ↓reduceIte]
    cases nonemptyText _ v <;> rfl

theorem winner_override (hv : v ≠ .null) :
    (⟨[(key.name, v)], fun _ => none, []⟩ : Layers).winner = only key v := by
  funext other
  unfold only
  symm
  apply Layers.wins_iff.mp
  by_cases hkey : other = key
  · rw [if_pos hkey, hkey]
    exact .override ⟨List.lookup_cons_self, hv⟩
  · rw [if_neg hkey]
    refine .absent ?_ ?_ ?_
    · rintro w ⟨hlookup, -⟩
      have hname : (other.name == key.name) = false :=
        beq_false_of_ne fun heq => hkey (Key.name_injective heq)
      simp [List.lookup_cons, hname] at hlookup
    · rintro s ⟨name, -, hset, -⟩
      cases hset
    · rintro w ⟨k, hfind⟩
      cases hfind

theorem winner_entry (key : Key) (v : Value) :
    (⟨[], fun _ => none, [(.text key.name, v)]⟩ : Layers).winner = only key v := by
  have hover : ∀ other w, ¬(⟨[], fun _ => none, [(.text key.name, v)]⟩ : Layers).Overrides other w := by
    rintro other w ⟨hlookup, -⟩
    cases hlookup
  have hset : ∀ other s, ¬(⟨[], fun _ => none, [(.text key.name, v)]⟩ : Layers).Sets other s := by
    rintro other s ⟨name, -, hset, -⟩
    cases hset
  have hsame : ∀ other : Key, Value.sameKey (.text key.name) (.text other.name) =
      (key.name == other.name) := fun _ => rfl
  funext other
  unfold only
  symm
  apply Layers.wins_iff.mp
  by_cases hkey : other = key
  · rw [if_pos hkey, hkey]
    refine .file (hover key) (hset key) ⟨.text key.name, ?_⟩
    rw [List.find?_cons, hsame, beq_self_eq_true]
  · rw [if_neg hkey]
    refine .absent (hover other) (hset other) ?_
    rintro w ⟨k, hfind⟩
    have hname : (key.name == other.name) = false :=
      beq_false_of_ne fun heq => hkey (Key.name_injective heq).symm
    rw [List.find?_cons, hsame, hname] at hfind
    cases hfind

/-! ### Loading a single value -/

/-- The content is one entry, and its value a plain scalar. -/
def HoldsPlain (content : Bytes) (key : Key) (text : String) : Prop :=
  ∃ document, Text.decodeText content = .ok document ∧
    Yaml.tokens document = Yaml.entryTokens key.name text

/-- What loading comes to with the file alone. -/
def fromFile (given : Option String) (root : Path) (m : Machine) : Except Fault Loaded :=
  answer (load given (fun _ => none) [] root) m

/-- What loading comes to with one override and no variables. -/
def fromOverride (given : Option String) (root : Path) (m : Machine) (key : Key) (text : String) :
    Except Fault Loaded :=
  answer (load given (fun _ => none) [(key.name, .text text)] root) m

theorem fromOverride_eq {m : Machine} {given : Option String}
    (h : answer (filePath? given (fun _ => none) root) m = .ok none) (key : Key) (text : String) :
    fromOverride given root m key text = ofValue root key (.text text) := by
  rw [fromOverride, answer_load_of_supplies (.none h), winner_override Value.noConfusion,
    ofWinners_only]

section File

variable {m : Machine} {given : Option String} {content : Bytes}
  (hfile : FileFound m given (fun _ => none) root location content)
  (hplain : HoldsPlain content key text)

include hplain in
theorem readContent_of_holdsPlain :
    readContent location content =
      match Yaml.plainValue text with
      | .ok v => .ok [(.text key.name, v)]
      | .error .malformed => failed (.malformedYaml location.text)
      | .error e => .error (.data e) := by
  obtain ⟨document, hdecode, htokens⟩ := hplain
  have hkey : Yaml.Tag.ofScalar key.name = .text := by cases key <;> decide
  have hread := Yaml.read_of_tokens hkey htokens
  have hknown : ∀ v, entriesOf location.text (.map [(.text key.name, v)]) =
      .ok [(.text key.name, v)] := by
    intro v
    refine entriesOf_eq_ok_iff.mpr (.mapping ?_)
    rintro e he
    rw [List.mem_singleton.mp he]
    exact ⟨key, beq_self_eq_true key.name⟩
  unfold readContent
  rw [hdecode]
  change parse location.text document = _
  rw [parse, hread]
  cases Yaml.plainValue text with
  | ok v => exact hknown v
  | error e => cases e <;> rfl

include hfile hplain

theorem fromFile_of_value (hv : Yaml.plainValue text = .ok v) :
    fromFile given root m = ofValue root key v := by
  have hentries : readContent location content = .ok [(.text key.name, v)] := by
    rw [readContent_of_holdsPlain hplain, hv]
  rw [fromFile, answer_load_of_supplies (.file hfile hentries), winner_entry, ofWinners_only]

theorem fromFile_of_malformed (h : Yaml.plainValue text = .error .malformed) :
    fromFile given root m = failed (.malformedYaml location.text) := by
  rw [fromFile, answer_load hfile, ofContent, readContent_of_holdsPlain hplain, h]
  rfl

end File

/-! ### Outcomes -/

/-- A configuration error takes the place of settings. -/
def Rejected (r : Except Fault Loaded) : Prop :=
  ∃ e, r = .error (.config e)

inductive SameOutcome : Except Fault Loaded → Except Fault Loaded → Prop
  | settings (s : Loaded) : SameOutcome (.ok s) (.ok s)
  | rejection (e e' : ConfigError) : SameOutcome (.error (.config e)) (.error (.config e'))

/-- A value comes to the settings that its plain text comes to, if the key takes plain text. -/
theorem ofValue_of_plain (hcommand : key.isCommand = false) (htimeout : key ≠ .timeout)
    (hv : v.plain = .ok shown) (hsound : v.systemError? = none) :
    ofValue root key v = ofValue root key (.text shown) := by
  have hplain : plainText v = plainText (.text shown) := by
    rw [plainText, hv]
    rfl
  have hfull : ∀ k, nonemptyText k v = nonemptyText k (.text shown) := by
    intro k
    rw [nonemptyText, hplain]
    rfl
  cases key with
  | benchCommand | compareCommand => cases hcommand
  | timeout => exact absurd rfl htimeout
  | git => rw [ofValue, ofValue, hplain]
  | remote | benchesDir | sentinel => rw [ofValue, ofValue, hfull]
  | flagVariable | branchVariable =>
    rw [ofValue, ofValue, hfull, hsound]
    rfl

theorem sameOutcome_ok_iff {s s' : Loaded} : SameOutcome (.ok s) (.ok s') ↔ s = s' := by
  constructor
  · rintro ⟨⟩
    rfl
  · rintro rfl
    exact .settings s

theorem sameOutcome_nonemptyText_iff {make : String → Loaded} (hmake : Function.Injective make) :
    SameOutcome ((nonemptyText key (.text shown)).map make) ((nonemptyText key (.text text)).map make) ↔
      shown = text := by
  have heq : ∀ s, nonemptyText key (.text s) =
      if s == "" then failed (.emptyText key.name) else .ok s := fun _ => rfl
  rw [heq, heq]
  by_cases hshown : shown = ""
  · by_cases htext : text = ""
    · rw [hshown, htext]
      exact iff_of_true (.rejection _ _) rfl
    · rw [if_pos (by simpa using hshown), if_neg (by simpa using htext)]
      refine iff_of_false ?_ fun heq => htext (heq ▸ hshown)
      rintro ⟨⟩
  · by_cases htext : text = ""
    · rw [if_neg (by simpa using hshown), if_pos (by simpa using htext)]
      refine iff_of_false ?_ fun heq => hshown (heq ▸ htext)
      rintro ⟨⟩
    · rw [if_neg (by simpa using hshown), if_neg (by simpa using htext)]
      exact sameOutcome_ok_iff.trans hmake.eq_iff

/-- Different texts make different settings. -/
theorem sameOutcome_texts_iff (hcommand : key.isCommand = false) (htimeout : key ≠ .timeout) :
    SameOutcome (ofValue root key (.text shown)) (ofValue root key (.text text)) ↔ shown = text := by
  cases key with
  | benchCommand | compareCommand => cases hcommand
  | timeout => exact absurd rfl htimeout
  | git =>
    refine sameOutcome_ok_iff.trans ⟨fun h => congrArg (fun s : Loaded => s.git) h, ?_⟩
    rintro rfl
    rfl
  | remote => exact sameOutcome_nonemptyText_iff fun _ _ h => congrArg (fun s : Loaded => s.remote) h
  | benchesDir => exact sameOutcome_nonemptyText_iff fun _ _ h => congrArg (fun s : Loaded => s.benchesDir) h
  | flagVariable => exact sameOutcome_nonemptyText_iff fun _ _ h => congrArg (fun s : Loaded => s.flagVariable) h
  | branchVariable =>
    exact sameOutcome_nonemptyText_iff fun _ _ h => congrArg (fun s : Loaded => s.branchVariable) h
  | sentinel => exact sameOutcome_nonemptyText_iff fun _ _ h => congrArg (fun s : Loaded => s.sentinel) h

/-! ### Values that are not text -/

/-- What plain scalars are that are not text. -/
inductive Typed : Value → Prop
  | null : Typed .null
  | bool (b : Bool) : Typed (.bool b)
  | int (n : Int) : Typed (.int n)
  | float (x : Number.Binary64) : Typed (.float x)
  | date (d : Date) : Typed (.date d)
  | moment (t : Moment) : Typed (.moment t)

theorem map_eq_ok {ε α β : Type} {r : Except ε α} {f : α → β} {b : β} (h : r.map f = .ok b) :
    ∃ a, f a = b := by
  cases r with
  | error e => cases h
  | ok a => exact ⟨a, Except.ok.inj h⟩

theorem timestampOf_eq_ok (h : Yaml.timestampOf text = .ok v) :
    (∃ d, v = .date d) ∨ ∃ t, v = .moment t := by
  unfold Yaml.timestampOf at h
  split at h
  · cases h
  · split at h
    · obtain ⟨d, hd⟩ := map_eq_ok (mapError_eq_ok_iff.mp h)
      exact .inl ⟨d, hd.symm⟩
    · obtain ⟨t, ht⟩ := map_eq_ok (mapError_eq_ok_iff.mp h)
      exact .inr ⟨t, ht.symm⟩

theorem typed_of_plainValue (hv : Yaml.plainValue text = .ok v)
    (htag : Yaml.Tag.ofScalar text ≠ .text) : Typed v := by
  unfold Yaml.plainValue at hv
  generalize Yaml.Tag.ofScalar text = tag at hv htag
  unfold Yaml.taggedValue at hv
  split at hv
  · cases hv
    exact .null
  · obtain ⟨b, rfl⟩ := map_eq_ok hv
    exact .bool b
  · obtain ⟨n, rfl⟩ := map_eq_ok hv
    exact .int n
  · obtain ⟨x, rfl⟩ := map_eq_ok hv
    exact .float x
  · obtain ⟨d, rfl⟩ | ⟨t, rfl⟩ := timestampOf_eq_ok hv
    · exact .date d
    · exact .moment t
  · exact absurd rfl htag
  · cases hv

/-- A plain scalar has no escapes, and so no halves of surrogate pairs. -/
theorem systemError?_of_plainValue (hv : Yaml.plainValue text = .ok v) : v.systemError? = none := by
  by_cases htag : Yaml.Tag.ofScalar text = .text
  · rw [Yaml.plainValue, htag] at hv
    cases hv
    rfl
  · cases typed_of_plainValue hv htag <;> rfl

theorem rejected_of_typed (hkey : key.isCommand = true) (hv : Typed v) :
    Rejected (ofValue root key v) := by
  cases key with
  | benchCommand | compareCommand => cases hv <;> exact ⟨_, rfl⟩
  | _ => cases hkey

/-! ### Seconds -/

theorem ofValue_timeout_of_readInteger {n : Int} (h : Number.readInteger 10 shown = .ok n) :
    ofValue root .timeout (.int n) = ofValue root .timeout (.text shown) := by
  have hseconds : wholeSeconds (.text shown) = .ok n := wholeSeconds_eq_ok_iff.mpr (.text h)
  rw [ofValue, ofValue, asTimeout, asTimeout, hseconds]
  rfl

theorem rejected_of_readInteger (h : (Number.readInteger 10 text).isOk = false) :
    Rejected (ofValue root .timeout (.text text)) := by
  cases hread : Number.readInteger 10 text with
  | ok n =>
    rw [hread] at h
    cases h
  | error e =>
    refine ⟨.timeoutNotInteger (Text.quoted text), ?_⟩
    have hseconds : wholeSeconds (.text text) = failed (.timeoutNotInteger (Text.quoted text)) := by
      unfold wholeSeconds
      dsimp only
      rw [hread]
      rfl
    rw [ofValue, asTimeout, hseconds]
    rfl

theorem rejected_of_tag (hv : Yaml.plainValue text = .ok v)
    (htag : Yaml.Tag.ofScalar text ∈ [Yaml.Tag.null, .timestamp]) :
    Rejected (ofValue root .timeout v) := by
  unfold Yaml.plainValue at hv
  simp only [List.mem_cons, List.not_mem_nil, or_false] at htag
  rcases htag with htag | htag
  · rw [htag] at hv
    cases hv
    exact ⟨_, rfl⟩
  · rw [htag] at hv
    obtain ⟨d, rfl⟩ | ⟨t, rfl⟩ := timestampOf_eq_ok hv
    · exact ⟨_, rfl⟩
    · exact ⟨_, rfl⟩

/-! ### Lines -/

/-- The line of an entry, and what comes behind it. -/
def lineContent (key : Key) (t ending : List Char) : Bytes :=
  Text.encode (String.ofList (key.name.toList ++ ':' :: ' ' :: (t ++ ending)))

theorem no_return_of_plainLine {line : List Char} (h : Yaml.PlainLine line) : '\r' ∉ line := by
  have hword : ∀ {w : List Char}, Yaml.PlainWord w → '\r' ∉ w := by
    intro w hw hmem
    exact absurd (hw.no_gap '\r' hmem) (by decide)
  induction h with
  | word hw => exact hword hw
  | words hw hgap hspaces hline ih =>
    simp only [List.mem_append, not_or]
    refine ⟨hword hw, fun hmem => ?_, ih⟩
    exact absurd (hspaces '\r' hmem) (by decide)

theorem plainKey_name (key : Key) : Yaml.PlainKey key.name.toList := by
  cases key <;> exact ⟨by decide, by decide, by decide, List.all_eq_true.mp (by decide)⟩

/-- Every plain scalar on the line of its key is read as one. -/
theorem holdsPlain_line {t ending : List Char} {ended : Bool} (key : Key)
    (ht : Yaml.PlainScalarText t) (hending : Yaml.Ending ending ended) :
    HoldsPlain (lineContent key t ending) key (String.ofList t) := by
  have hname : '\r' ∉ key.name.toList := no_return_of_plainLine (.word (plainKey_name key).word)
  have hend : '\r' ∉ ending := by cases hending <;> decide
  refine ⟨_, Text.decodeText_encode ?_, ?_⟩
  · simp [hname, no_return_of_plainLine ht.line, hend]
  · rw [Yaml.tokens_line (plainKey_name key) ht hending, String.ofList_toList]

/-! ### The file against an override -/

/-- Text has the same outcome in the file and as an override, for every key. A command that the file
gives another type is rejected; under the other keys a value is its plain text, so its outcome is that
of another override unless the plain text is the text as written. Seconds are the same number for both
if the text is the decimal form of one, and for texts that are neither text nor a number there are none.
Truth values and fractions in place of seconds are left open. -/
theorem load_plain_entry {m m' : Machine} {given given' : Option String} {content : Bytes}
    (hfile : FileFound m given (fun _ => none) root location content)
    (hplain : HoldsPlain content key text)
    (hnone : answer (filePath? given' (fun _ => none) root) m' = .ok none) :
    (Yaml.Tag.ofScalar text = .text →
        fromFile given root m = fromOverride given' root m' key text) ∧
      (∀ v shown, Yaml.plainValue text = .ok v → v.plain = .ok shown → key.isCommand = false →
        key ≠ .timeout →
          fromFile given root m = fromOverride given' root m' key shown ∧
            (SameOutcome (fromFile given root m) (fromOverride given' root m' key text) ↔
              shown = text)) ∧
      (∀ v, Yaml.plainValue text = .ok v → Yaml.Tag.ofScalar text ≠ .text → key.isCommand = true →
        Rejected (fromFile given root m)) ∧
      (key = .timeout →
        (∀ n shown, Yaml.plainValue text = .ok (.int n) → Number.readInteger 10 shown = .ok n →
          fromFile given root m = fromOverride given' root m' key shown) ∧
        (∀ n, Number.writeInteger n = .ok text →
          fromFile given root m = fromOverride given' root m' key text) ∧
        (Yaml.Tag.ofScalar text ∉ [Yaml.Tag.int, .text] →
          Rejected (fromOverride given' root m' key text)) ∧
        ∀ v, Yaml.plainValue text = .ok v → Yaml.Tag.ofScalar text ∈ [Yaml.Tag.null, .timestamp] →
          Rejected (fromFile given root m)) ∧
      (Yaml.plainValue text = .error .malformed → Rejected (fromFile given root m)) := by
  have hover := fromOverride_eq hnone key
  refine ⟨fun htag => ?_, fun v shown hv hshown hcommand htimeout => ?_, fun v hv htag hkey => ?_, ?_,
    fun hmalformed => ⟨_, fromFile_of_malformed hfile hplain hmalformed⟩⟩
  · have hv : Yaml.plainValue text = .ok (.text text) := by
      rw [Yaml.plainValue, htag]
      rfl
    rw [fromFile_of_value hfile hplain hv, hover]
  · have heq : fromFile given root m = fromOverride given' root m' key shown := by
      rw [fromFile_of_value hfile hplain hv, hover,
        ofValue_of_plain hcommand htimeout hshown (systemError?_of_plainValue hv)]
    refine ⟨heq, ?_⟩
    rw [heq, hover, hover]
    exact sameOutcome_texts_iff hcommand htimeout
  · rw [fromFile_of_value hfile hplain hv]
    exact rejected_of_typed hkey (typed_of_plainValue hv htag)
  · rintro rfl
    have hint : ∀ n shown, Yaml.plainValue text = .ok (.int n) → Number.readInteger 10 shown = .ok n →
        fromFile given root m = fromOverride given' root m' .timeout shown := by
      intro n shown hv hread
      rw [fromFile_of_value hfile hplain hv, hover, ofValue_timeout_of_readInteger hread]
    refine ⟨hint, fun n hwritten => ?_, fun htag => ?_, fun v hv htag => ?_⟩
    · have hv : Yaml.plainValue text = .ok (.int n) := by
        rw [Yaml.plainValue, Yaml.ofScalar_of_writeInteger hwritten, Yaml.taggedValue,
          Yaml.integerOf_of_writeInteger hwritten]
        rfl
      exact hint n text hv (Number.readInteger_writeInteger hwritten)
    · rw [hover]
      exact rejected_of_readInteger (Yaml.readInteger_of_tag htag)
    · rw [fromFile_of_value hfile hplain hv]
      exact rejected_of_tag hv htag

/-- A sentinel that is written as `no` in the file is the text `False`. -/
theorem load_plain_entry_no :
    let content := lineContent .sentinel ['n', 'o'] ['\n']
    let file := fromFile none (Path.ofString "/work") (.inWork [(fileName, content)] [])
    file = fromOverride none (Path.ofString "/work") (.inWork [] []) .sentinel "False" ∧
      ¬SameOutcome file (fromOverride none (Path.ofString "/work") (.inWork [] []) .sentinel "no") := by
  have hscalar : Yaml.PlainScalarText ['n', 'o'] :=
    ⟨.word (by decide), .letter (by decide), List.all_eq_true.mp (by decide)⟩
  have hline : HoldsPlain (lineContent .sentinel ['n', 'o'] ['\n']) .sentinel "no" :=
    holdsPlain_line .sentinel hscalar .lineFeed
  have hnone : answer (filePath? none (fun _ => none) (Path.ofString "/work")) (.inWork [] []) =
      .ok none := rfl
  obtain ⟨-, hplain, -⟩ := load_plain_entry (fileFound_inWork _ [] rfl) hline hnone
  obtain ⟨heq, hsame⟩ := hplain (.bool false) "False" rfl rfl rfl (by decide)
  exact ⟨heq, fun h => absurd (hsame.mp h) (by decide)⟩

/-- A command that is written as `true` in the file is a truth value, and no command. -/
theorem not_sameOutcome_true :
    ¬∀ (m m' : Machine) (given given' : Option String) (root location : Path) (content : Bytes)
        (key : Key) (text : String),
      FileFound m given (fun _ => none) root location content → HoldsPlain content key text →
      answer (filePath? given' (fun _ => none) root) m' = .ok none →
      SameOutcome (fromFile given root m) (fromOverride given' root m' key text) := by
  intro h
  have hscalar : Yaml.PlainScalarText ['t', 'r', 'u', 'e'] :=
    ⟨.word (by decide), .letter (by decide), List.all_eq_true.mp (by decide)⟩
  have hline : HoldsPlain (lineContent .benchCommand ['t', 'r', 'u', 'e'] ['\n']) .benchCommand "true" :=
    holdsPlain_line .benchCommand hscalar .lineFeed
  have hnone : answer (filePath? none (fun _ => none) (Path.ofString "/work")) (.inWork [] []) =
      .ok none := rfl
  have hunset : nonempty? (fun _ => none) fileVariable = none := rfl
  have hfile := fileFound_inWork (lineContent .benchCommand ['t', 'r', 'u', 'e'] ['\n']) [] hunset
  have hv : Yaml.plainValue "true" = .ok (.bool true) := rfl
  have hsame := h _ _ none none _ _ _ .benchCommand "true" hfile hline hnone
  rw [fromFile_of_value hfile hline hv, fromOverride_eq hnone] at hsame
  have htext : ofValue (Path.ofString "/work") .benchCommand (.text "true") =
      .ok { benchCommand := ["true"], root := Path.ofString "/work" } := by
    have hform : CommandForm (.text "true") ["true"] := ⟨.text rfl rfl, by decide⟩
    rw [ofValue, splitCommand_eq_ok_iff.mpr hform]
    rfl
  rw [htext] at hsame
  cases hsame

end MergeBench.Settings
