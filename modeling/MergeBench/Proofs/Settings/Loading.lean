import Mathlib.Logic.Basic
import Mathlib.Tactic.ByContra
import MergeBench.Proofs.Activity
import MergeBench.Proofs.Settings.Checks
import MergeBench.Settings.Load

namespace MergeBench.Settings

/-! ### Loading is quiet -/

theorem quiet_filePath? (given : Option String) (vars : Variables) (root : Path) :
    Quiet (filePath? given vars root) := by
  unfold filePath?
  split
  · exact quiet_pure _
  · split
    · exact quiet_pure _
    · refine (quiet_pathExists _).bind fun there => ?_
      cases there <;> exact quiet_pure _

def readIfThere (path : Path) (there : Bool) : Act (List (Value × Value)) := do
  if !there then throw (.config (.fileMissing path.text))
  let text ← readText path
  lift id (parse path.text text)

theorem readEntries_eq (path : Path) :
    readEntries path =
      (expandHome path >>= resolve) >>= fun path => pathExists path >>= readIfThere path := by
  rw [bind_assoc]
  rfl

theorem quiet_realPath (path : Path) : Quiet (expandHome path >>= resolve) :=
  (quiet_expandHome path).bind quiet_resolve

theorem quiet_parseText (path : Path) :
    Quiet (readText path >>= fun text => lift id (parse path.text text)) :=
  (quiet_readText path).bind fun _ => quiet_lift id _

theorem quiet_readIfThere (path : Path) (there : Bool) : Quiet (readIfThere path there) := by
  cases there with
  | false => exact (quiet_throw _).bind fun _ => quiet_parseText path
  | true => exact quiet_parseText path

theorem quiet_readEntries (path : Path) : Quiet (readEntries path) := by
  rw [readEntries_eq]
  exact (quiet_realPath path).bind fun path =>
    (quiet_pathExists path).bind (quiet_readIfThere path)

/-- The end of loading: the settings, told to whoever listens. -/
def resolveLayers (root : Path) (l : Layers) : Act Loaded := do
  let settings ← lift id (ofLayers root l)
  match settings.value.written with
  | .ok shown => report .debug .settings s!"resolved settings: {shown}"
  | .error _ => pure ()
  return settings

theorem quiet_tellSettings (settings : Loaded) :
    Quiet (do
      match settings.value.written with
      | .ok shown => report .debug .settings s!"resolved settings: {shown}"
      | .error _ => pure ()
      return settings : Act Loaded) := by
  dsimp only
  split
  · exact (quiet_report _ _ _).bind fun _ => quiet_pure _
  · exact quiet_pure settings

theorem quiet_resolveLayers (root : Path) (l : Layers) : Quiet (resolveLayers root l) :=
  (quiet_lift id _).bind quiet_tellSettings

theorem answer_resolveLayers (root : Path) (l : Layers) (m : Machine) :
    answer (resolveLayers root l) m = ofLayers root l := by
  unfold resolveLayers
  rw [(quiet_lift id _).answer_bind quiet_tellSettings]
  cases ofLayers root l with
  | error f => rfl
  | ok settings =>
    change answer (match settings.value.written with
      | .ok shown => report .debug .settings s!"resolved settings: {shown}" >>= fun _ => pure settings
      | .error _ => pure settings) m = .ok settings
    split <;> rfl

def loadFrom (vars : Variables) (overrides : List (String × Value)) (root : Path) :
    Option Path → Act Loaded
  | none => resolveLayers root ⟨overrides, vars, []⟩
  | some path => do
    let entries ← readEntries (root.join path)
    report .debug .settings s!"loaded config file {(root.join path).text}"
    resolveLayers root ⟨overrides, vars, entries⟩

theorem load_eq (given : Option String) (vars : Variables) (overrides : List (String × Value))
    (root : Path) :
    load given vars overrides root = filePath? given vars root >>= loadFrom vars overrides root := by
  refine congrArg (filePath? given vars root >>= ·) (funext fun file? => ?_)
  cases file? <;> rfl

theorem quiet_loadFrom (vars : Variables) (overrides : List (String × Value)) (root : Path)
    (file? : Option Path) : Quiet (loadFrom vars overrides root file?) := by
  cases file? with
  | none => exact quiet_resolveLayers root _
  | some path =>
    exact (quiet_readEntries _).bind fun _ => (quiet_report _ _ _).bind fun _ =>
      quiet_resolveLayers root _

theorem quiet_load (given : Option String) (vars : Variables) (overrides : List (String × Value))
    (root : Path) : Quiet (load given vars overrides root) := by
  rw [load_eq]
  exact (quiet_filePath? given vars root).bind (quiet_loadFrom vars overrides root)

/-! ### The configuration file -/

/-- The configuration file lies at this location, is a regular file and has this content. -/
structure FileFound (m : Machine) (given : Option String) (vars : Variables) (root location : Path)
    (content : Bytes) : Prop where
  leads : ∃ path, answer (filePath? given vars root) m = .ok (some path) ∧
    answer (expandHome (root.join path) >>= resolve) m = .ok location
  holds : ∃ executable, answer (entryAt location.text) m = .ok (some (.file content executable))

def readContent (location : Path) (content : Bytes) : Except Fault (List (Value × Value)) := do
  let text ← (Text.decodeText content).mapError Fault.encoding
  parse location.text text

/-- The settings for the content of the file. -/
def ofContent (location : Path) (content : Bytes) (vars : Variables)
    (overrides : List (String × Value)) (root : Path) : Except Fault Loaded := do
  let entries ← readContent location content
  ofLayers root ⟨overrides, vars, entries⟩

variable {m : Machine} {given : Option String} {vars : Variables} {root location : Path}
  {content : Bytes} {overrides : List (String × Value)}

theorem readFile_of_entryAt {fs : FileSystem} {here : Location} {path : String} {executable : Bool}
    (h : fs.entryAt here path = .ok (some (.file content executable))) :
    fs.readFile here path = .ok content := by
  unfold FileSystem.entryAt at h
  unfold FileSystem.readFile
  cases hfind : fs.find true here path with
  | error e => cases e <;> simp [hfind] at h
  | ok spot =>
    simp only [hfind, Except.ok.injEq] at h
    simp [bind, Except.bind, h]

theorem answer_readText_of_file {path : Path} {executable : Bool}
    (h : answer (entryAt path.text) m = .ok (some (.file content executable))) :
    answer (readText path) m = (Text.decodeText content).mapError Fault.encoding := by
  rw [answer_entryAt] at h
  split at h
  · cases h
  · rename_i hnull
    have hentry : m.files.entryAt m.directory path.text = .ok (some (.file content executable)) := by
      cases hentry : m.files.entryAt m.directory path.text with
      | error e => simp [hentry] at h
      | ok entry => simpa [hentry] using h
    rw [answer_readText (by simpa using hnull), readFile_of_entryAt hentry]
    rfl

theorem answer_readIfThere {executable : Bool}
    (h : answer (entryAt location.text) m = .ok (some (.file content executable))) :
    answer (readIfThere location true) m = readContent location content := by
  change answer (readText location >>= fun text => lift id (parse location.text text)) m = _
  rw [(quiet_readText location).answer_bind fun _ => quiet_lift id _, answer_readText_of_file h]
  unfold readContent
  cases Text.decodeText content with
  | error e => rfl
  | ok text =>
    change answer (lift id (parse location.text text)) m = parse location.text text
    rw [answer_lift]
    cases parse location.text text <;> rfl

theorem answer_readEntries {path : Path} {executable : Bool}
    (hpath : answer (expandHome path >>= resolve) m = .ok location)
    (hfile : answer (entryAt location.text) m = .ok (some (.file content executable))) :
    answer (readEntries path) m = readContent location content := by
  have hthere : answer (pathExists location) m = .ok true := by
    unfold pathExists
    rw [(quiet_entryAt _).answer_bind fun _ => quiet_pure _, hfile]
    rfl
  rw [readEntries_eq, (quiet_realPath path).answer_bind fun path =>
    (quiet_pathExists path).bind (quiet_readIfThere path), hpath]
  change answer (pathExists location >>= readIfThere location) m = _
  rw [(quiet_pathExists location).answer_bind (quiet_readIfThere location), hthere]
  exact answer_readIfThere hfile

/-- Of the whole machine only the content of the file matters. -/
theorem answer_load (h : FileFound m given vars root location content)
    (overrides : List (String × Value)) :
    answer (load given vars overrides root) m = ofContent location content vars overrides root := by
  obtain ⟨⟨path, hpath, hlocation⟩, executable, hfile⟩ := h
  rw [load_eq, (quiet_filePath? given vars root).answer_bind (quiet_loadFrom vars overrides root),
    hpath]
  unfold ofContent
  change answer (loadFrom vars overrides root (some path)) m = _
  unfold loadFrom
  rw [(quiet_readEntries _).answer_bind fun _ => (quiet_report _ _ _).bind fun _ =>
    quiet_resolveLayers root _, answer_readEntries hlocation hfile]
  cases readContent location content with
  | error f => rfl
  | ok entries =>
    change answer (report .debug .settings _ >>= fun _ => resolveLayers root _) m = _
    rw [(quiet_report _ _ _).answer_bind fun _ => quiet_resolveLayers root _]
    exact answer_resolveLayers root _ m

/-! ### What the content decides -/

def IsKnown (key : Value) : Prop :=
  ∃ known : Key, key.sameKey (.text known.name) = true

/-- The data of a file stand for these entries. Whatever is blank stands for none. -/
inductive Configures : Value → List (Value × Value) → Prop
  | blank {data : Value} (h : data.isBlank = true) : Configures data []
  | mapping {entries : List (Value × Value)} (h : ∀ e ∈ entries, IsKnown e.1) :
      Configures (.map entries) entries

theorem not_isKnown_of_name? {key : Value} (h : key.name? = none) : ¬IsKnown key := by
  rintro ⟨known, hsame⟩
  cases key <;> simp_all [Value.name?, Value.sameKey, Value.numberKey?]

/-- The keys that are listed as unknown. -/
def unknownKeys (entries : List (Value × Value)) : List Value :=
  (entries.map Prod.fst).filter fun key => !Key.all.any fun known => key.sameKey (.text known.name)

theorem mem_unknownKeys {entries : List (Value × Value)} {key : Value} :
    key ∈ unknownKeys entries ↔ (∃ e ∈ entries, e.1 = key) ∧ ¬IsKnown key := by
  have hknown : (!Key.all.any fun known => key.sameKey (.text known.name)) = true ↔
      ¬IsKnown key := by
    rw [Bool.not_eq_true', ← Bool.not_eq_true, List.any_eq_true, not_iff_not]
    constructor
    · rintro ⟨known, -, h⟩
      exact ⟨known, h⟩
    · rintro ⟨known, h⟩
      exact ⟨known, known.mem_all, h⟩
  rw [unknownKeys, List.mem_filter, hknown, List.mem_map]

theorem unknownKeys_eq_nil_iff {entries : List (Value × Value)} :
    unknownKeys entries = [] ↔ ∀ e ∈ entries, IsKnown e.1 := by
  rw [List.eq_nil_iff_forall_not_mem]
  constructor
  · intro h e he
    by_contra hunknown
    exact h e.1 (mem_unknownKeys.mpr ⟨⟨e, he, rfl⟩, hunknown⟩)
  · intro h key hkey
    obtain ⟨⟨e, he, rfl⟩, hunknown⟩ := mem_unknownKeys.mp hkey
    exact hunknown (h e he)

theorem entriesOf_of_isBlank {data : Value} (h : data.isBlank = true) (path : String) :
    entriesOf path data = .ok [] := by
  simp [entriesOf, h]

theorem entriesOf_of_not_map {data : Value} (hblank : data.isBlank = false)
    (hmap : ∀ entries, data ≠ .map entries) (path : String) :
    entriesOf path data = failed (.notMapping path) := by
  cases data <;> simp_all [entriesOf]

theorem entriesOf_map (path : String) (entries : List (Value × Value)) :
    entriesOf path (.map entries) =
      if (unknownKeys entries).isEmpty then .ok entries
      else if ((unknownKeys entries).filterMap Value.name?).length < (unknownKeys entries).length then
        .error .unlistableKeys
      else failed (.unknownKeys path
        (((unknownKeys entries).filterMap Value.name?).mergeSort fun a b => decide (a ≤ b))) := by
  cases entries <;> rfl

theorem entriesOf_eq_ok_iff {path : String} {data : Value} {entries : List (Value × Value)} :
    entriesOf path data = .ok entries ↔ Configures data entries := by
  constructor
  · intro h
    cases hblank : data.isBlank with
    | true =>
      rw [entriesOf_of_isBlank hblank] at h
      cases h
      exact .blank hblank
    | false =>
      by_cases hmap : ∃ held, data = .map held
      · obtain ⟨held, rfl⟩ := hmap
        rw [entriesOf_map] at h
        split at h
        · rename_i hnone
          cases h
          exact .mapping (unknownKeys_eq_nil_iff.mp (List.isEmpty_iff.mp hnone))
        · split at h <;> cases h
      · rw [entriesOf_of_not_map hblank fun held hheld => hmap ⟨held, hheld⟩] at h
        cases h
  · rintro (hblank | hknown)
    · exact entriesOf_of_isBlank hblank path
    · rw [entriesOf_map, if_pos (List.isEmpty_iff.mpr (unknownKeys_eq_nil_iff.mpr hknown))]

theorem strays_entriesOf_iff {path : String} {data : Value} :
    Strays (entriesOf path data) ↔
      ∃ entries, data = .map entries ∧ ∃ e ∈ entries, e.1.name? = none := by
  constructor
  · intro h
    cases hblank : data.isBlank with
    | true =>
      rw [entriesOf_of_isBlank hblank] at h
      exact absurd h (not_strays_ok _)
    | false =>
      by_cases hmap : ∃ held, data = .map held
      · obtain ⟨held, rfl⟩ := hmap
        rw [entriesOf_map] at h
        split at h
        · exact absurd h (not_strays_ok _)
        · split at h
          · rename_i hlist
            obtain ⟨key, hkey, hname⟩ := List.length_filterMap_lt_length_iff_exists.mp hlist
            obtain ⟨⟨e, he, rfl⟩, -⟩ := mem_unknownKeys.mp hkey
            exact ⟨held, rfl, e, he, hname⟩
          · exact absurd h (not_strays_failed _)
      · rw [entriesOf_of_not_map hblank fun held hheld => hmap ⟨held, hheld⟩] at h
        exact absurd h (not_strays_failed _)
  · rintro ⟨entries, rfl, e, he, hname⟩
    have hunknown : e.1 ∈ unknownKeys entries :=
      mem_unknownKeys.mpr ⟨⟨e, he, rfl⟩, not_isKnown_of_name? hname⟩
    have hlist : ((unknownKeys entries).filterMap Value.name?).length <
        (unknownKeys entries).length :=
      List.length_filterMap_lt_length_iff_exists.mpr ⟨e.1, hunknown, hname⟩
    rw [entriesOf_map, if_neg, if_pos hlist]
    · exact ⟨_, rfl, fun _ h => by cases h⟩
    · rw [List.isEmpty_iff]
      exact List.ne_nil_of_mem hunknown

/-! ### Loading in terms of the content -/

/-- The contents that end loading with a fault that is no configuration error. -/
inductive StrayContent (vars : Variables) (overrides : List (String × Value)) (content : Bytes) : Prop
  | encoding {e : Text.Utf8Error} (h : Text.decodeText content = .error e)
  /-- The document is well formed and yet not data. -/
  | data {text : String} {e : Yaml.DataError} (htext : Text.decodeText content = .ok text)
      (hdata : Yaml.read text = .error e) (h : e ≠ .malformed)
  /-- A key that is no text. -/
  | key {text : String} {entries : List (Value × Value)} {e : Value × Value}
      (htext : Text.decodeText content = .ok text) (hdata : Yaml.read text = .ok (.map entries))
      (he : e ∈ entries) (h : e.1.name? = none)
  /-- The first winning value that is refused is refused for another reason. -/
  | value {text : String} {data : Value} {entries : List (Value × Value)} {before after : List Key}
      {key : Key} {v : Value} (htext : Text.decodeText content = .ok text)
      (hdata : Yaml.read text = .ok data) (hentries : Configures data entries)
      (horder : checkOrder = before ++ key :: after)
      (hbefore : ∀ k ∈ before,
        ((⟨overrides, vars, entries⟩ : Layers).winner k).bind k.refusal? = none)
      (hwinner : (⟨overrides, vars, entries⟩ : Layers).winner key = some v)
      (h : Unreported key v) : StrayContent vars overrides content

theorem readContent_eq_ok_iff {entries : List (Value × Value)} :
    readContent location content = .ok entries ↔
      ∃ text data, Text.decodeText content = .ok text ∧ Yaml.read text = .ok data ∧
        Configures data entries := by
  unfold readContent
  cases htext : Text.decodeText content with
  | error e => simp [bind, Except.bind]
  | ok text =>
    change parse location.text text = .ok entries ↔ _
    unfold parse
    cases hdata : Yaml.read text with
    | error e => cases e <;> simp [failed, hdata]
    | ok data => simp [entriesOf_eq_ok_iff, hdata]

theorem strays_readContent_iff :
    Strays (readContent location content) ↔
      (∃ e, Text.decodeText content = .error e) ∨
      (∃ text e, Text.decodeText content = .ok text ∧ Yaml.read text = .error e ∧
        e ≠ .malformed) ∨
      ∃ text entries, Text.decodeText content = .ok text ∧ Yaml.read text = .ok (.map entries) ∧
        ∃ e ∈ entries, e.1.name? = none := by
  unfold readContent
  cases htext : Text.decodeText content with
  | error e => simp [Strays, bind, Except.bind]
  | ok text =>
    change Strays (parse location.text text) ↔ _
    unfold parse
    cases hdata : Yaml.read text with
    | error e =>
      by_cases he : e = .malformed
      · subst he
        simp [hdata]
      · have hstrays : Strays (.error (.data e) : Except Fault (List (Value × Value))) :=
          ⟨_, rfl, fun _ h => by cases h⟩
        simp [hdata, he, hstrays]
    | ok data => simp [strays_entriesOf_iff, hdata]

theorem strays_ofContent_iff :
    Strays (ofContent location content vars overrides root) ↔
      StrayContent vars overrides content := by
  unfold ofContent ofLayers
  simp only [strays_bind_iff, strays_readContent_iff, strays_ofWinners_iff, readContent_eq_ok_iff]
  constructor
  · rintro ((⟨e, h⟩ | ⟨text, e, htext, hdata, h⟩ | ⟨text, entries, htext, hdata, e, he, h⟩) |
      ⟨entries, ⟨text, data, htext, hdata, hentries⟩, before, key, after, v, horder, hbefore,
        hwinner, h⟩)
    · exact .encoding h
    · exact .data htext hdata h
    · exact .key htext hdata he h
    · exact .value htext hdata hentries horder hbefore hwinner h
  · rintro (h | ⟨htext, hdata, h⟩ | ⟨htext, hdata, he, h⟩ |
      ⟨htext, hdata, hentries, horder, hbefore, hwinner, h⟩)
    · exact .inl (.inl ⟨_, h⟩)
    · exact .inl (.inr (.inl ⟨_, _, htext, hdata, h⟩))
    · exact .inl (.inr (.inr ⟨_, _, htext, hdata, _, he, h⟩))
    · exact .inr ⟨_, ⟨_, _, htext, hdata, hentries⟩, _, _, _, _, horder, hbefore, hwinner, h⟩

theorem ofContent_eq_ok_iff {s : Loaded} :
    ofContent location content vars overrides root = .ok s ↔
      ∃ text data entries, Text.decodeText content = .ok text ∧ Yaml.read text = .ok data ∧
        Configures data entries ∧ ofLayers root ⟨overrides, vars, entries⟩ = .ok s := by
  unfold ofContent
  constructor
  · intro h
    cases hcontent : readContent location content with
    | error f =>
      rw [hcontent] at h
      cases h
    | ok entries =>
      rw [hcontent] at h
      obtain ⟨text, data, htext, hdata, hentries⟩ := readContent_eq_ok_iff.mp hcontent
      exact ⟨text, data, entries, htext, hdata, hentries, h⟩
  · rintro ⟨text, data, entries, htext, hdata, hentries, h⟩
    rw [readContent_eq_ok_iff.mpr ⟨text, data, htext, hdata, hentries⟩]
    exact h

/-- The content is a document, and its data are null or a mapping from known keys. -/
def Proper (content : Bytes) : Prop :=
  ∃ text data, Text.decodeText content = .ok text ∧ Yaml.read text = .ok data ∧
    (data = .null ∨ ∃ entries, data = .map entries ∧ ∀ e ∈ entries, IsKnown e.1)

theorem fileFound_inWork (content : Bytes) (bindings : List (String × String)) {vars : Variables}
    (hvars : nonempty? vars fileVariable = none) :
    FileFound (.inWork [(fileName, content)] bindings) none vars (Path.ofString "/work")
      (Path.ofString "/work/pr_bench.yml") content where
  leads := by
    refine ⟨Path.ofString "/work/pr_bench.yml", by rw [filePath?, hvars]; rfl, ?_⟩
    rw [(quiet_expandHome _).answer_bind quiet_resolve]
    change answer (resolve (Path.ofString "/work/pr_bench.yml")) _ = _
    exact answer_resolve rfl rfl rfl rfl
  holds := ⟨false, rfl⟩

end MergeBench.Settings
