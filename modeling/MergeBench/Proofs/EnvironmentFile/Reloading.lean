import MergeBench.Proofs.EnvironmentFile

/-!
Loading a file of variables, once and again. No variable that was set before is touched, so a setting
that the environment gives is passed on as it was. A load that has come to its end has nothing left to
add: the same file can be loaded again without effect on the environment.
-/

namespace MergeBench.Startup

variable {m m₁ : Machine} {path : Path} {given : Option Path} {loaded : Bool}

/-! ### What a load needs -/

/-- All that a load has to look up and to read at the path can be looked up and read. -/
def CanRead (path : Path) (m : Machine) : Prop :=
  ∃ there, answer (pathExists path) m = .ok there ∧
    (there = true → isDisabled m.environment = false → ∃ found, answer (statementsAt path) m = .ok found)

theorem answer_loadIfThere (path : Path) (m : Machine) :
    answer (loadIfThere path) m = (answer (pathExists path) m).bind fun there =>
      if there then
        if isDisabled m.environment then .ok false
        else (answer (statementsAt path) m).bind fun found => answer (addBindings found) m
      else .ok false := by
  unfold loadIfThere
  rw [(steady_pathExists path).answer_bind]
  congr 1
  funext there
  cases there with
  | false => rfl
  | true =>
    simp only [↓reduceIte]
    rw [loadFile_eq_statementsAt, answer_get_bind]
    split
    · rfl
    · rw [(steady_statementsAt path).answer_bind]

theorem canRead_of_loadIfThere (h : answer (loadIfThere path) m = .ok loaded) :
    CanRead path m := by
  rw [answer_loadIfThere] at h
  obtain ⟨there, hthere, h⟩ := bind_eq_ok_iff.mp h
  refine ⟨there, hthere, fun hth hdisabled => ?_⟩
  rw [if_pos hth, hdisabled] at h
  obtain ⟨found, hfound, -⟩ := bind_eq_ok_iff.mp h
  exact ⟨found, hfound⟩

theorem answer_reportUnreadable (lines : List Nat) (m : Machine) :
    answer (reportUnreadable lines) m = .ok () := by
  induction lines with
  | nil => rfl
  | cons line rest ih =>
    unfold reportUnreadable
    rw [(quiet_report _ _ _).answer_bind fun _ => quiet_reportUnreadable rest]
    exact ih

/-- Bindings that have nothing for the environment are loaded without a fault. -/
theorem exists_answer_addBindings {found : List Dotenv.Statement} (h : additionsOf found m = []) :
    ∃ loaded, answer (addBindings found) m = .ok loaded := by
  obtain ⟨m', hreport⟩ :=
    answer_eq_iff.mp (answer_reportUnreadable (Dotenv.unreadableLines found) m)
  have hnothing : additionsOf found m' = [] := by
    unfold additionsOf at h ⊢
    rwa [((quiet_reportUnreadable _).sameWorld_of_runFrom hreport).environment]
  unfold additionsOf at hnothing
  unfold addBindings answer
  rw [runFrom_bind, hreport]
  dsimp only
  rw [runFrom_bind, runFrom_get]
  dsimp only
  rw [hnothing]
  exact ⟨_, rfl⟩

theorem exists_answer_loadIfThere (hread : CanRead path m) (h : additionsAt path m = []) :
    ∃ loaded, answer (loadIfThere path) m = .ok loaded := by
  obtain ⟨there, hthere, hread⟩ := hread
  rw [answer_loadIfThere, hthere]
  cases there with
  | false => exact ⟨false, rfl⟩
  | true =>
    cases hdisabled : isDisabled m.environment with
    | true => exact ⟨false, rfl⟩
    | false =>
      obtain ⟨found, hfound⟩ := hread rfl hdisabled
      unfold additionsAt at h
      rw [hdisabled, hfound] at h
      rw [hfound]
      exact exists_answer_addBindings h

theorem adds_of_mem_additionsAt {name value : String} (h : (name, value) ∈ additionsAt path m) :
    ∃ found, answer (statementsAt path) m = .ok found ∧
      Dotenv.Adds m.environment (Dotenv.bindings found) name value := by
  unfold additionsAt at h
  split at h
  · cases h
  · split at h
    next found hfound => exact ⟨found, hfound, Dotenv.mem_additions_resolve_iff.mp h⟩
    · cases h

/-! ### Loading the same file again -/

/-- What turns off the loading stays set. -/
theorem isDisabled_of_extends {env env' : Environment} (h : env'.Extends env)
    (hdisabled : isDisabled env = true) : isDisabled env' = true := by
  unfold isDisabled at hdisabled ⊢
  cases hvalue : env.get? disablingVariable with
  | none =>
    rw [hvalue] at hdisabled
    cases hdisabled
  | some value =>
    rw [hvalue] at hdisabled
    rw [h.get? _ _ hvalue]
    exact hdisabled

theorem place_of_loadIfThere {r : Except Fault Bool} (hrun : runFrom (loadIfThere path) m = (r, m₁)) :
    m₁.files = m.files ∧ m₁.directory = m.directory := by
  have hhides : HidesSetup fun m : Machine => (m.files, m.directory) := by
    refine ⟨fun m r => ?_, fun _ _ => rfl, fun _ _ => rfl⟩
    rw [(m.sameWorld_report r).files, (m.sameWorld_report r).directory]
  exact Prod.mk.inj ((steady_loadIfThere hhides path).view_eq_of_runFrom hrun)

/-- A load that has come to its end has left nothing over in its file. -/
theorem additionsAt_of_loaded (hrun : runFrom (loadIfThere path) m = (.ok loaded, m₁)) :
    additionsAt path m₁ = [] := by
  have henv := (takesUp_loadIfThere path m).environment_of_ok hrun
  have hadds := (extending_loadIfThere path m).of_runFrom hrun
  obtain ⟨hfiles, hdirectory⟩ := place_of_loadIfThere hrun
  unfold additionsAt at henv ⊢
  split
  · rfl
  next hable =>
    rw [if_neg (mt (isDisabled_of_extends hadds) hable)] at henv
    rw [answer_statementsAt_congr hfiles hdirectory]
    cases hread : answer (statementsAt path) m with
    | error f => rfl
    | ok found =>
      rw [hread] at henv
      dsimp only [additionsOf] at henv ⊢
      rw [henv]
      exact Dotenv.additions_setAll _ _

theorem canRead_of_loaded (hrun : runFrom (loadIfThere path) m = (.ok loaded, m₁)) :
    CanRead path m₁ := by
  have hadds := (extending_loadIfThere path m).of_runFrom hrun
  obtain ⟨hfiles, hdirectory⟩ := place_of_loadIfThere hrun
  obtain ⟨there, hthere, hread⟩ := canRead_of_loadIfThere (answer_eq_iff.mpr ⟨m₁, hrun⟩)
  unfold CanRead
  simp only [answer_pathExists_congr hfiles hdirectory, answer_statementsAt_congr hfiles hdirectory]
  refine ⟨there, hthere, fun hth hable => hread hth ?_⟩
  rw [← Bool.not_eq_true] at hable ⊢
  exact mt (isDisabled_of_extends hadds) hable

theorem exists_loadIfThere_again (hrun : runFrom (loadIfThere path) m = (.ok loaded, m₁)) :
    ∃ again m₂, runFrom (loadIfThere path) m₁ = (.ok again, m₂) ∧
      m₂.environment = m₁.environment := by
  have hnothing := additionsAt_of_loaded hrun
  obtain ⟨again, hanswer⟩ := exists_answer_loadIfThere (canRead_of_loaded hrun) hnothing
  obtain ⟨m₂, hrun₂⟩ := answer_eq_iff.mp hanswer
  refine ⟨again, m₂, hrun₂, ?_⟩
  rw [(takesUp_loadIfThere path m₁).environment_of_ok hrun₂, hnothing]
  rfl

/-! ### The file of an invocation -/

/-- The path at which a file is looked for: the one that is given, else the one at the root. -/
inductive LooksAt (m : Machine) : Option Path → Path → Prop
  | given (path : Path) : LooksAt m (some path) path
  | atRoot {root : Path} (h : answer (Repository.findRoot m.environment.get?) m = .ok root) :
      LooksAt m none (environmentPath root)

theorem LooksAt.runFrom_eq (h : LooksAt m given path) :
    runFrom (loadEnvironment given) m = runFrom (loadIfThere path) m := by
  cases h with
  | given path => rw [loadEnvironment_some]
  | atRoot h => exact runFrom_loadEnvironment h

/-- Without a root there is no file to look for. -/
theorem looksAt_or_environment_eq (given : Option Path) (m : Machine) :
    (∃ path, LooksAt m given path) ∨
      (runFrom (loadEnvironment given) m).2.environment = m.environment := by
  cases given with
  | some path => exact .inl ⟨path, .given path⟩
  | none =>
    rcases hroot : runFrom (Repository.findRoot m.environment.get?) m with ⟨f | root, m₁⟩
    · refine .inr ?_
      obtain rfl := (steady_findRoot _).eq_of_runFrom hroot
      rw [loadEnvironment_none, runFrom_bind, runFrom_get]
      dsimp only
      rw [runFrom_bind, hroot]
    · exact .inl ⟨_, .atRoot (answer_eq_iff.mpr ⟨m₁, hroot⟩)⟩

/-- The second machine has at most more variables than the first, each with the value of its last
binding in the file. A setting is passed on with the value that its variable had before, if that was no
empty text. -/
structure OnlyAdds (given : Option Path) (m m₁ : Machine) : Prop where
  keeps : ∀ name value, m.environment.get? name = some value →
    m₁.environment.get? name = some value
  adds : ∀ name value, m.environment.get? name = none → m₁.environment.get? name = some value →
    ∃ path found, LooksAt m given path ∧ answer (statementsAt path) m = .ok found ∧
      Dotenv.Adds m.environment (Dotenv.bindings found) name value
  supplies : ∀ (key : Settings.Key) (name value : String), key.environmentName? = some name →
    m.environment.get? name = some value → value ≠ "" → ∀ l : Settings.Layers,
      l.vars = m₁.environment.get? → l.fromEnvironment? key = some (.text value)

/-- All that the file at the path has for the first machine is in the environment of the second, and
there the file can be loaded again without effect on the environment. -/
structure Settled (path : Path) (m m₁ : Machine) : Prop where
  complete : isDisabled m.environment = false → ∃ found, answer (statementsAt path) m = .ok found ∧
    ∀ name value, Dotenv.Adds m.environment (Dotenv.bindings found) name value →
      m₁.environment.get? name = some value
  again : ∀ given, LooksAt m₁ given path → ∃ loaded m₂,
    runFrom (loadEnvironment given) m₁ = (.ok loaded, m₂) ∧ m₂.environment = m₁.environment

theorem settled_of_loadIfThere (hrun : runFrom (loadIfThere path) m = (.ok loaded, m₁)) :
    Settled path m m₁ := by
  refine ⟨fun hable => ?_, fun given hlooks => ?_⟩
  · obtain ⟨found, hfound⟩ : ∃ found, answer (statementsAt path) m = .ok found := by
      obtain ⟨there, hthere, hread⟩ := canRead_of_loadIfThere (answer_eq_iff.mpr ⟨m₁, hrun⟩)
      cases there with
      | true => exact hread rfl hable
      | false => exact ⟨[], answer_statementsAt_of_missing hthere⟩
    have henv := (takesUp_loadIfThere path m).environment_of_ok hrun
    unfold additionsAt at henv
    rw [hable, hfound] at henv
    refine ⟨found, hfound, fun name value hadds => ?_⟩
    rw [henv]
    exact hadds.get?_setAll
  · rw [hlooks.runFrom_eq]
    exact exists_loadIfThere_again hrun

theorem onlyAdds_loadEnvironment (given : Option Path) (m : Machine) :
    OnlyAdds given m (runFrom (loadEnvironment given) m).2 := by
  have hkeeps : Extending m (loadEnvironment given) := by
    cases given with
    | none => exact extending_loadEnvironment m
    | some path =>
      rw [loadEnvironment_some]
      exact extending_loadIfThere path m
  refine ⟨hkeeps.get?, fun name value hfree hvalue => ?_,
    fun key name value hname hvalue hne l hvars => ?_⟩
  · rcases looksAt_or_environment_eq given m with ⟨path, hlooks⟩ | hsame
    · rw [hlooks.runFrom_eq] at hvalue
      have hmem := (takesUp_loadIfThere path m).mem_of_get? hfree hvalue
      obtain ⟨found, hfound, hadds⟩ := adds_of_mem_additionsAt hmem
      exact ⟨path, found, hlooks, hfound, hadds⟩
    · rw [hsame, hfree] at hvalue
      cases hvalue
  · refine Settings.Layers.fromEnvironment?_eq_some_iff.mpr ⟨value, rfl, name, hname, ?_, hne⟩
    rw [hvars]
    exact hkeeps.get? name value hvalue

/-- Loading a file of variables only adds to the environment, whether or not it comes to its end. When
it does, the same file has nothing left to add. -/
theorem loadEnvironment_only_adds (given : Option Path) (m : Machine) :
    OnlyAdds given m (runFrom (loadEnvironment given) m).2 ∧
      ∀ loaded path, answer (loadEnvironment given) m = .ok loaded → LooksAt m given path →
        Settled path m (runFrom (loadEnvironment given) m).2 := by
  refine ⟨onlyAdds_loadEnvironment given m, fun loaded path hloaded hlooks => ?_⟩
  obtain ⟨m₁, hrun⟩ := answer_eq_iff.mp hloaded
  have hsettled := settled_of_loadIfThere (hlooks.runFrom_eq.symm.trans hrun)
  rwa [hrun]

/-- A file whose first binding refers to its second one, so that it would be expanded otherwise the
second time. A name whose last binding has no value is not set, and what was set before is kept. -/
def withForwardReference : Machine :=
  .inWork [(".env", Text.encode
    "A=$\x7bB\x7d\nB=1\nC=2\nC\nPR_BENCH_REMOTE=up\nno binding\n")] [("PR_BENCH_REMOTE", "ci")]

theorem loadEnvironment_only_adds_forward_reference :
    let m := withForwardReference
    let m₁ := (runFrom (loadEnvironment none) m).2
    (m₁.environment.get? "A" = some "" ∧ m₁.environment.get? "B" = some "1" ∧
      m₁.environment.get? "C" = none) ∧
      Dotenv.expand m₁.environment [] "$\x7bB\x7d" = "1" ∧
      (∀ l : Settings.Layers, l.vars = m₁.environment.get? →
        l.fromEnvironment? .remote = some (.text "ci")) ∧
      ∃ loaded m₂, runFrom (loadEnvironment none) m₁ = (.ok loaded, m₂) ∧
        m₂.environment = m₁.environment := by
  intro m m₁
  obtain ⟨honly, hsettled⟩ := loadEnvironment_only_adds none m
  have hends : (answer (loadEnvironment none) m).isOk = true := by decide +kernel
  obtain ⟨loaded, hloaded⟩ := exists_runFrom_of_isOk hends
  have hroot : answer (Repository.findRoot m.environment.get?) m = .ok (Path.ofString "/work") :=
    yields_iff.mp (by decide +kernel)
  have hroot₁ : answer (Repository.findRoot m₁.environment.get?) m₁ = .ok (Path.ofString "/work") :=
    yields_iff.mp (by decide +kernel)
  refine ⟨by decide +kernel, by decide +kernel, ?_, ?_⟩
  · exact honly.supplies .remote "PR_BENCH_REMOTE" "ci" rfl rfl (by decide)
  · exact (hsettled loaded _ (answer_eq_iff.mpr ⟨_, hloaded⟩) (.atRoot hroot)).again none (.atRoot hroot₁)

end MergeBench.Startup
