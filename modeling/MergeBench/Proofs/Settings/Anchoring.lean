import MergeBench.Proofs.Settings.Loading

/-!
Where a configuration file that is named is looked for. The directory of the results is anchored after
its home directory is filled in; the configuration file is anchored before. The two agree on every path
that asks for no home directory, and on one that does only where the files are so that both ways meet.
-/

namespace MergeBench

/-- The first name of the path stands for a home directory. -/
def Path.AsksHome (p : Path) : Prop :=
  p.isAbsolute = false ∧ ∃ account rest, p.names = String.ofList ('~' :: account) :: rest

theorem Path.expandHome_of_not_asksHome {p : Path} (h : ¬p.AsksHome) (env : Environment) :
    p.expandHome env = .ok p := by
  unfold expandHome
  split
  next first rest hnames =>
    split
    next account hfirst =>
      split
      · rfl
      next habsolute =>
        refine absurd ⟨by simpa using habsolute, account, rest, ?_⟩ h
        rw [hnames, ← hfirst, String.ofList_toList]
    · rfl
  · rfl

theorem Path.not_asksHome_of_isAbsolute {p : Path} (h : p.isAbsolute = true) : ¬p.AsksHome := by
  rintro ⟨hrelative, -⟩
  rw [h] at hrelative
  cases hrelative

theorem answer_resolve_of_isAbsolute {path : Path} (h : path.isAbsolute = true) (m : Machine) :
    answer (resolve path) m =
      if hasNull path.text then .error .nullCharacter
      else
        match m.files.find true [] (m.files.realLocation [] path.text).text with
        | .error .tooManyLinks => .error (.linkLoop (m.files.realLocation [] path.text).text)
        | _ => .ok (m.files.realLocation [] path.text).path := by
  unfold resolve checkPath
  split
  · rfl
  · simp only [pure_bind]
    rw [answer, runFrom_bind, runFrom_get]
    dsimp only
    rcases m.files.find true [] (m.files.realLocation [] path.text).text with e | spot
    · cases e <;> rfl
    · rfl

theorem answer_resolve_ne_home {path : Path} (h : path.isAbsolute = true) (m : Machine)
    (e : HomeError) : answer (resolve path) m ≠ .error (.home e) := by
  rw [answer_resolve_of_isAbsolute h]
  split
  · nofun
  · split <;> nofun

namespace Settings

/-- The configuration file is named by the caller, or else in the variable. -/
inductive Named (given : Option String) (vars : Variables) : String → Prop
  | byCaller {text : String} (h : given = some text) (hne : text ≠ "") : Named given vars text
  | byVariable {text : String} (hgiven : given.filter (· != "") = none)
      (h : nonempty? vars fileVariable = some text) : Named given vars text

/-- A path anchored the way the directory of the results is, with all its links resolved. -/
def anchored (text : String) (root : Path) : Act Path := do
  resolve (← lift .home (anchoredBenches (← get).environment text root))

/-- The settings with the entries of the file at this path, which holds no links. -/
def settingsAt (vars : Variables) (overrides : List (String × Value)) (root : Path) (m : Machine)
    (path : Path) : Except Fault Loaded :=
  (answer (pathExists path >>= readIfThere path) m).bind fun entries =>
    ofLayers root ⟨overrides, vars, entries⟩

variable {m : Machine} {given : Option String} {vars : Variables} {root : Path} {text : String}

theorem Named.filePath?_eq (h : Named given vars text) :
    filePath? given vars root = pure (some (Path.ofString text)) := by
  unfold filePath?
  cases h with
  | byCaller h hne =>
    rw [h, Option.filter_some, if_pos (by simpa using hne)]
  | byVariable hgiven h => rw [hgiven, h]

theorem answer_realPath_of_not_asksHome {path : Path} (h : ¬path.AsksHome) (m : Machine) :
    answer (expandHome path >>= resolve) m = answer (resolve path) m := by
  have hexpand : answer (expandHome path) m = .ok path := by
    unfold expandHome
    rw [answer_get_bind, answer_lift, Path.expandHome_of_not_asksHome h]
    rfl
  rw [(quiet_expandHome path).answer_bind quiet_resolve, hexpand]
  rfl

theorem answer_readEntries_of_not_asksHome {path : Path} (h : ¬path.AsksHome) (m : Machine) :
    answer (readEntries path) m =
      (answer (resolve path) m).bind fun path => answer (pathExists path >>= readIfThere path) m := by
  rw [readEntries_eq, (quiet_realPath path).answer_bind fun path =>
    (quiet_pathExists path).bind (quiet_readIfThere path), answer_realPath_of_not_asksHome h]

/-- The path is anchored first, so that no home directory is asked for any more. -/
theorem answer_load_of_named (hroot : root.isAbsolute = true) (h : Named given vars text)
    (overrides : List (String × Value)) :
    answer (load given vars overrides root) m =
      (answer (resolve (root.join (Path.ofString text))) m).bind
        (settingsAt vars overrides root m) := by
  have hhome : ¬(root.join (Path.ofString text)).AsksHome :=
    Path.not_asksHome_of_isAbsolute (Path.isAbsolute_join hroot _)
  have hrest (entries : List (Value × Value)) : answer (do
      report .debug .settings s!"loaded config file {(root.join (Path.ofString text)).text}"
      resolveLayers root ⟨overrides, vars, entries⟩) m = ofLayers root ⟨overrides, vars, entries⟩ := by
    rw [(quiet_report _ _ _).answer_bind fun _ => quiet_resolveLayers root _]
    exact answer_resolveLayers root _ m
  rw [load_eq, h.filePath?_eq, pure_bind, loadFrom, (quiet_readEntries _).answer_bind fun _ =>
    (quiet_report _ _ _).bind fun _ => quiet_resolveLayers root _,
    answer_readEntries_of_not_asksHome hhome]
  simp only [hrest]
  cases answer (resolve (root.join (Path.ofString text))) m <;> rfl

theorem answer_anchored (text : String) (root : Path) (m : Machine) :
    answer (anchored text root) m = (((Path.ofString text).expandHome m.environment).mapError .home).bind
      fun home => answer (resolve (root.join home)) m := by
  unfold anchored anchoredBenches
  rw [answer_get_bind, (quiet_lift _ _).answer_bind quiet_resolve, answer_lift]
  cases (Path.ofString text).expandHome m.environment <;>
    simp only [bind, Except.bind, pure, Except.pure, mapError_ok, mapError_error]

/-- A named file is read from the path that is anchored without its home directory. That is the path
anchored with it exactly if no home directory is asked for, or if both lead to one place. -/
theorem load_reads_anchored_iff (hroot : root.isAbsolute = true) (h : Named given vars text)
    (m : Machine) :
    (∀ overrides, answer (load given vars overrides root) m =
      (answer (resolve (root.join (Path.ofString text))) m).bind
        (settingsAt vars overrides root m)) ∧
    ((Path.ofString text).AsksHome → ∃ account rest,
      root.join (Path.ofString text) =
        ⟨root.anchor, root.names ++ String.ofList ('~' :: account) :: rest⟩) ∧
    (answer (resolve (root.join (Path.ofString text))) m = answer (anchored text root) m ↔
      ¬(Path.ofString text).AsksHome ∨
        ∃ home, (Path.ofString text).expandHome m.environment = .ok home ∧
          answer (resolve (root.join (Path.ofString text))) m =
            answer (resolve (root.join home)) m) := by
  refine ⟨answer_load_of_named hroot h, ?_, ?_⟩
  · rintro ⟨hrelative, account, rest, hnames⟩
    exact ⟨account, rest, by rw [Path.join, if_neg (by simp [hrelative]), hnames]⟩
  · rw [answer_anchored]
    cases hhome : (Path.ofString text).expandHome m.environment with
    | error e =>
      have hasks : (Path.ofString text).AsksHome := by
        by_contra hasks
        rw [Path.expandHome_of_not_asksHome hasks] at hhome
        cases hhome
      have hne := answer_resolve_ne_home (Path.isAbsolute_join hroot (Path.ofString text)) m e
      refine iff_of_false hne (not_or.mpr ⟨not_not_intro hasks, ?_⟩)
      rintro ⟨home, hhome, -⟩
      cases hhome
    | ok home =>
      constructor
      · exact fun heq => .inr ⟨home, rfl, heq⟩
      · rintro (hasks | ⟨home, ⟨⟩, heq⟩)
        · rw [Path.expandHome_of_not_asksHome hasks] at hhome
          cases hhome
          rfl
        · exact heq

/-- The variable names a file that is there. -/
theorem load_reads_anchored_iff_variable :
    let root := Path.ofString "/work"
    let vars : Variables := fun name => if name = fileVariable then some "bench.yml" else none
    let m := Machine.inWork [("bench.yml", Text.encode "remote: up\n")] []
    root.isAbsolute = true ∧ Named none vars "bench.yml" ∧
    (answer (load none vars [] root) m).map (fun s => s.remote) = .ok "up" ∧
    (∀ overrides, answer (load none vars overrides root) m =
      (answer (resolve (root.join (Path.ofString "bench.yml"))) m).bind
        (settingsAt vars overrides root m)) ∧
    ((Path.ofString "bench.yml").AsksHome → ∃ account rest,
      root.join (Path.ofString "bench.yml") =
        ⟨root.anchor, root.names ++ String.ofList ('~' :: account) :: rest⟩) ∧
    (answer (resolve (root.join (Path.ofString "bench.yml"))) m =
        answer (anchored "bench.yml" root) m ↔
      ¬(Path.ofString "bench.yml").AsksHome ∨
        ∃ home, (Path.ofString "bench.yml").expandHome m.environment = .ok home ∧
          answer (resolve (root.join (Path.ofString "bench.yml"))) m =
            answer (resolve (root.join home)) m) := by
  intro root vars m
  have hnamed : Named none vars "bench.yml" := .byVariable rfl (by decide)
  exact ⟨rfl, hnamed, yields_iff.mp (by decide +kernel), load_reads_anchored_iff rfl hnamed m⟩

/-- A builder whose home directory holds the configuration. -/
def atHome : Machine where
  files := ⟨[(["work"], .directory), (["home"], .directory), (["home", "builder"], .directory),
    (["home", "builder", "bench.yml"], .file (Text.encode "remote: up\n") false)]⟩
  environment := ⟨[("HOME", "/home/builder")], "builder", []⟩
  directory := ["work"]
  output := []
  errors := []
  diagnostics := .initial
  clock := 0
  executable := "pr_bench"
  arguments := []

/-- The file is there, but it is looked for in a directory `~` below the root. -/
theorem not_reads_anchored_home :
    ¬∀ (given : Option String) (vars : Variables) (text : String) (root : Path) (m : Machine),
      root.isAbsolute = true → Named given vars text →
        answer (load given vars [] root) m =
          (answer (anchored text root) m).bind (settingsAt vars [] root m) := by
  intro h
  have hload := h (some "~/bench.yml") (fun _ => none) "~/bench.yml" (Path.ofString "/work") atHome rfl
    (.byCaller rfl (by decide))
  have hok := congrArg Except.isOk hload
  revert hok
  decide +kernel

end Settings

end MergeBench
