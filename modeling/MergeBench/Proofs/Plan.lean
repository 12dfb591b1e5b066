import MergeBench.Proofs.BuildContext
import MergeBench.Proofs.Run.MergeOrder
import MergeBench.Proofs.Run.Passage
import MergeBench.Proofs.Settings.Precedence

/-!
What a plan rests on. The checks on the values of all layers make every loaded setting fit for a plan,
the check on the context gives the plan of a pull request its names, and every step of a plan can be
taken as it is.
-/

namespace MergeBench

/-! ### Loaded settings -/

namespace Settings

structure Valid (s : Settings) : Prop where
  benchCommand : s.benchCommand ≠ []
  compareCommand : s.compareCommand ≠ []
  timeout : 0 ≤ s.timeout
  remote : s.remote ≠ ""
  benchesDir : s.benchesDir ≠ ""
  flagVariable : s.flagVariable ≠ ""
  branchVariable : s.branchVariable ≠ ""
  sentinel : s.sentinel ≠ ""

theorem Comes.elim {α : Type} {form : Value → α → Prop} {default a : α} {winner : Option Value}
    {p : α → Prop} (h : Comes form default winner a) (hdefault : p default)
    (hform : ∀ v, form v a → p a) : p a := by
  cases winner with
  | none =>
    have heq : a = default := h
    rw [heq]
    exact hdefault
  | some v => exact hform v h

theorem valid_of_ofLayers {root : Path} {l : Layers} {s : Loaded} (h : ofLayers root l = .ok s) :
    s.Valid := by
  obtain ⟨-, hshows⟩ := ofWinners_eq_ok_iff.mp h
  have hcommand : ∀ {default words : List String} {w : Option Value},
      Comes CommandForm default w words → default ≠ [] → words ≠ [] :=
    fun hcomes hdefault => hcomes.elim (p := (· ≠ [])) hdefault fun _ hform => hform.2
  have htext : ∀ {default text : String} {w : Option Value},
      Comes FullTextForm default w text → default ≠ "" → text ≠ "" :=
    fun hcomes hdefault => hcomes.elim (p := (· ≠ "")) hdefault fun _ hform => hform.2
  exact {
    benchCommand := hcommand (hshows .benchCommand) (by decide)
    compareCommand := hcommand (hshows .compareCommand) (by decide)
    timeout := Comes.elim (p := (0 ≤ ·)) (hshows .timeout) (by decide) fun _ hform => hform.2
    remote := htext (hshows .remote) (by decide)
    benchesDir := htext (hshows .benchesDir) (by decide)
    flagVariable := htext (hshows .flagVariable).1 (by decide)
    branchVariable := htext (hshows .branchVariable).1 (by decide)
    sentinel := htext (hshows .sentinel) (by decide) }

variable {m : Machine} {given : Option String} {vars : Variables}
  {overrides : List (String × Value)} {root : Path} {s : Loaded}

/-- Whatever was found on the way, the settings come from layers. -/
theorem exists_layers_of_load (h : answer (load given vars overrides root) m = .ok s) :
    ∃ entries, ofLayers root ⟨overrides, vars, entries⟩ = .ok s := by
  rw [load_eq, (quiet_filePath? given vars root).answer_bind (quiet_loadFrom vars overrides root)] at h
  obtain ⟨file?, -, h⟩ := bind_eq_ok_iff.mp h
  cases file? with
  | none => exact ⟨[], by rwa [loadFrom, answer_resolveLayers] at h⟩
  | some path =>
    rw [loadFrom, (quiet_readEntries _).answer_bind fun _ => (quiet_report _ _ _).bind fun _ =>
      quiet_resolveLayers root _] at h
    obtain ⟨entries, -, h⟩ := bind_eq_ok_iff.mp h
    rw [(quiet_report _ _ _).answer_bind fun _ => quiet_resolveLayers root _] at h
    obtain ⟨_, -, h⟩ := bind_eq_ok_iff.mp h
    exact ⟨entries, by rwa [answer_resolveLayers] at h⟩

theorem valid_of_load (h : answer (load given vars overrides root) m = .ok s) : s.Valid := by
  obtain ⟨entries, hlayers⟩ := exists_layers_of_load h
  exact valid_of_ofLayers hlayers

end Settings

/-! ### Steps that can be taken -/

/-- There is something to say, or there are words to run and a directory to run them in. -/
inductive Step.Sound : Step → Prop
  | announce {step : Step} (hkind : step.kind = .announce) (hmessage : step.message ≠ none)
      (hwords : step.words = []) (hartifact : step.artifact = none) : Sound step
  | command {step : Step} (hkind : step.kind = .command) (hwords : step.words ≠ [])
      (hdirectory : step.directory ≠ none) : Sound step

namespace Plan

variable {s : Settings} {env : Environment} {benches : Path} {steps : List Step}

theorem sound_announce (name message : String) : (announce name message).Sound :=
  .announce rfl (by simp [announce]) rfl rfl

theorem sound_gitStep (name : String) {words : List String} (h : words ≠ []) :
    (gitStep s name words).Sound :=
  .command rfl h (by simp [gitStep])

theorem sound_benchStep (h : s.Valid) (name : String) (artifact : Path) :
    (benchStep s name artifact).Sound :=
  .command rfl h.benchCommand (by simp [benchStep])

theorem sound_compareSteps (s : Settings) (benches : Path) (baseline candidate : String) :
    ∀ step ∈ compareSteps s benches baseline candidate, step.Sound := by
  simp only [compareSteps, List.forall_mem_cons, List.not_mem_nil, false_implies, implies_true,
    and_true]
  exact ⟨sound_announce _ _, .command rfl (by simp [compareStep, compareWords]) (by simp [compareStep])⟩

theorem sound_pullRequestSteps (h : s.Valid) (benches : Path) (number branch : String) :
    ∀ step ∈ pullRequestSteps s benches number branch, step.Sound := by
  have hgit : ∀ (name first : String) (rest : List String), (gitStep s name (first :: rest)).Sound :=
    fun name _ _ => sound_gitStep name (by simp)
  simp only [pullRequestSteps, List.forall_mem_append, List.forall_mem_cons, List.not_mem_nil,
    false_implies, implies_true, and_true]
  refine ⟨⟨?_, ?_, ?_, ?_, ?_, ?_, ?_, ?_⟩, sound_compareSteps s benches _ _⟩
  case refine_2 | refine_8 => exact sound_benchStep h _ _
  case refine_4 | refine_5 | refine_6 => exact hgit _ _ _
  all_goals exact sound_announce _ _

theorem sound_of_benchmark (h : s.Valid) {c : BuildContext} (hplan : benchmark env c s = .ok steps) :
    ∀ step ∈ steps, step.Sound := by
  unfold benchmark at hplan
  split at hplan
  · cases hplan
    simp
  · obtain ⟨benches, -, hsteps⟩ := bind_eq_ok_iff.mp hplan
    cases hsteps
    exact sound_pullRequestSteps h benches _ _

theorem sound_of_compare {baseline candidate : String}
    (hplan : compare env s baseline candidate = .ok steps) : ∀ step ∈ steps, step.Sound := by
  obtain ⟨benches, -, hsteps⟩ := bind_eq_ok_iff.mp hplan
  cases hsteps
  exact sound_compareSteps s benches baseline candidate

/-! ### The names in the plan of a pull request -/

/-- The refs that are switched to and the results are named by the branch and the number, neither of
which is blank, and the branch is the one that was given. -/
structure Named (s : Settings) (c : BuildContext) (given : Option String) (benches : Path)
    (steps : List Step) (branch : String) : Prop where
  told : given = some branch
  held : c.branch = some branch
  branch_full : ¬Settings.Missing (some branch)
  number_full : ¬Settings.Missing (some c.flag)
  results_full : ∀ name ∈ [pullRequestArtifact c.flag, branchArtifact branch],
    ¬Settings.Missing (some name)
  refs : ∀ step ∈ steps, step.name ∈ Run.switchingSteps → step.words.getLast? = some branch
  artifacts : ∀ step ∈ steps, ∀ p, step.artifact = some p →
    ∃ name ∈ [pullRequestArtifact c.flag, branchArtifact branch], p = benches.join (Path.ofString name)
  compared : ∀ step ∈ steps, step.name = "compare" → step.words =
    s.compareCommand ++ [branchArtifact branch, pullRequestArtifact c.flag]

theorem not_missing_pullRequestArtifact (number : String) :
    ¬Settings.Missing (some (pullRequestArtifact number)) := by
  intro h
  have hfirst : 'P' ∈ (pullRequestArtifact number).toList := by simp [pullRequestArtifact]
  exact absurd (h _ rfl 'P' hfirst) (by decide)

variable {c : BuildContext} {vars : Settings.Variables} {givenFlag givenBranch : Option String}

theorem named_of_context? (hc : s.context? vars givenFlag givenBranch = .ok c)
    (hpr : c.isPullRequest = true) (hplan : benchmark env c s = .ok steps) :
    ∃ benches branch, s.benchesPath env = .ok benches ∧
      Named s c (s.branch? vars givenBranch) benches steps branch := by
  obtain ⟨branch, hgiven, hbranch, hfull⟩ := Settings.branch_of_context? hc hpr
  have hbranchFull : ¬Settings.Missing (some branch) := by
    rw [Settings.missing_some_iff, hfull]
    exact Bool.false_ne_true
  have hnumberFull : ¬Settings.Missing (some c.flag) := by
    intro hmissing
    rcases s.context?_cases vars givenFlag givenBranch with ⟨-, e, h⟩ | ⟨hclear, flag, hflag, h⟩
    · cases hc.symm.trans h
    · cases hc.symm.trans h
      exact hclear (.inl (hflag ▸ hmissing))
  unfold benchmark BuildContext.pullRequest? at hplan
  rw [hpr, hbranch] at hplan
  obtain ⟨benches, hbenches, hsteps⟩ := bind_eq_ok_iff.mp hplan
  cases hsteps
  refine ⟨benches, branch, hbenches, hgiven, hbranch, hbranchFull, hnumberFull, ?_, ?_, ?_, ?_⟩
  · simp only [List.forall_mem_cons, List.not_mem_nil, false_implies, implies_true, and_true]
    exact ⟨not_missing_pullRequestArtifact c.flag, hbranchFull⟩
  · intro step hstep hname
    exact Run.words_of_name hstep hname
  · intro step hstep p hp
    rcases Run.eq_benchStep_of_artifact hstep hp with rfl | rfl
    · exact ⟨_, List.mem_cons_self, (Option.some.inj hp).symm⟩
    · exact ⟨_, List.mem_cons_of_mem _ List.mem_cons_self, (Option.some.inj hp).symm⟩
  · intro step hstep hname
    have hcompare : step = compareStep s benches (branchArtifact branch) (pullRequestArtifact c.flag) :=
      Run.eq_of_name hstep (by simp [pullRequestSteps, compareSteps, BuildContext.optionText]) hname
    rw [hcompare]
    rfl

end Plan

end MergeBench
