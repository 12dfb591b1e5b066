import MergeBench.Proofs.Run.Trail

/-!
The artifacts of a run and the files that it opened. Every step that the run came to counts with the
file that it names; whether that file was opened is decided on the machine of the step. The two agree
but for announcements that name a file, and for a last command that stopped before its file was open.
-/

namespace MergeBench.Run

variable {launch : Launcher} {timeout : Int} {steps : List Step} {stages : List Stage} {s : Stage}
  {m m' : Machine} {o : Outcome} {e : Execution} {p : Path}

def Stage.Opens (s : Stage) (p : Path) : Prop :=
  ∃ l m₁, s.OpensAt p l m₁

/-- A command whose output is to go to a file stops before that file is open: its working directory is
missing, or the file cannot be created. -/
inductive Stage.Unopened (s : Stage) : Prop
  | noDirectory {p d : Path} (hkind : s.step.kind ≠ .announce) (hartifact : s.step.artifact = some p)
      (hdirectory : s.step.directory = some d) (h : ¬s.told.HasDirectory d)
  | unwritable {p : Path} {e : FileError} {m₁ : Machine} (hwrites : Writes s.step s.told p)
      (h : runFrom (Command.openArtifact p) s.told = (.error (.file e), m₁))

theorem Stage.Unopened.artifact (h : s.Unopened) : ∃ p, s.step.artifact = some p := by
  cases h with
  | noDirectory _ hartifact => exact ⟨_, hartifact⟩
  | unwritable hwrites => exact ⟨_, hwrites.artifact⟩

theorem Stage.Unopened.kind (h : s.Unopened) : s.step.kind ≠ .announce := by
  cases h with
  | noDirectory hkind => exact hkind
  | unwritable hwrites => exact hwrites.kind

theorem Stage.Unopened.not_opens (h : s.Unopened) (p : Path) : ¬s.Opens p := by
  rintro ⟨l, m₁, hwrites, hopened⟩
  cases h with
  | noDirectory _ _ hdirectory hmissing => exact hmissing (hwrites.place _ hdirectory)
  | unwritable hwrites' hfails =>
    obtain rfl := Option.some.inj (hwrites.artifact.symm.trans hwrites'.artifact)
    rw [hopened] at hfails
    cases hfails

/-- A command that returns has opened the file for its output, or it has stopped with status 1. -/
theorem Stage.opens_or_unopened
    (hrun : runFrom (runStep launch s.step false timeout) s.before = (.ok e, s.after))
    (hkind : s.step.kind ≠ .announce) (hartifact : s.step.artifact = some p) :
    s.Opens p ∨ s.Unopened ∧ e.exitCode = 1 := by
  obtain ⟨result, m₁, hcommand, -, hresult⟩ := runFrom_runStep hkind hrun
  cases result with
  | error f => cases hresult
  | ok result =>
    obtain ⟨-, hcode⟩ := Prod.mk.inj (Except.ok.inj hresult)
    cases Command.goes_of_run hcommand with
    | noDirectory hdirectory hthere =>
      refine .inr ⟨.noDirectory hkind hartifact hdirectory fun hplace => ?_, hcode⟩
      have htrue := answer_isDirectory_eq_true_iff.mpr hplace
      rw [Stage.told, hthere] at htrue
      cases htrue
    | unwritable hplace hfile hopen => exact .inr ⟨.unwritable ⟨hkind, hfile, hplace⟩ hopen, hcode⟩
    | attempted hplace hopens _ =>
      cases hopens with
      | nothing hnone =>
        rw [show s.step.artifact = none from hnone] at hartifact
        cases hartifact
      | file hfile hopen =>
        obtain rfl := Option.some.inj (hartifact.symm.trans hfile)
        exact .inl ⟨_, _, ⟨hkind, hartifact, hplace⟩, hopen⟩

theorem Stage.Unopened.status (h : s.Unopened)
    (hrun : runFrom (runStep launch s.step false timeout) s.before = (.ok e, s.after)) :
    e.exitCode = 1 := by
  obtain ⟨p, hartifact⟩ := h.artifact
  rcases Stage.opens_or_unopened hrun h.kind hartifact with hopens | ⟨-, hstatus⟩
  · exact absurd hopens (h.not_opens p)
  · exact hstatus

theorem Trail.last_of_unopened
    (hkinds : ∀ step ∈ steps, step.kind = .announce ∨ step.kind = .command)
    (h : Trail (runStep launch) false timeout steps m stages (.ok o) m') (hs : s ∈ stages)
    (hunopened : s.Unopened) :
    stages.getLast? = some s ∧ o.exitCode = 1 ∧ o.failedStep = some s.step.name := by
  obtain ⟨e, hanswer⟩ := h.exists_execution hs
  have hrun := h.runFrom_eq hs
  rw [hanswer] at hrun
  have hkind : s.step.kind = .command := (hkinds _ (h.mem_steps hs)).resolve_left hunopened.kind
  have hstatus : e.exitCode = 1 := hunopened.status hrun
  obtain ⟨hlast, hcode, hfailed⟩ := h.last_of_fails hs hkind hanswer (by rw [hstatus]; decide)
  exact ⟨hlast, hcode.trans hstatus, hfailed⟩

/-- The artifacts of a run are the files that its steps name, each of them opened by its step if and only
if no announcement names a file and the last command was not without its file. -/
theorem artifacts_opened_iff
    (hkinds : ∀ step ∈ steps, step.kind = .announce ∨ step.kind = .command)
    (hrun : runFrom (execute (runStep launch) false timeout steps : Act Outcome) m = (.ok o, m')) :
    ∃ stages, Trail (runStep launch) false timeout steps m stages (.ok o) m' ∧
      o.artifacts = stages.filterMap (fun s => s.step.artifact) ∧
      ((∀ s ∈ stages, ∀ p, s.step.artifact = some p → s.Opens p) ↔
        (∀ s ∈ stages, s.step.kind = .announce → s.step.artifact = none) ∧
          ∀ s, stages.getLast? = some s → ¬s.Unopened) ∧
      ∀ s ∈ stages, s.Unopened →
        stages.getLast? = some s ∧ o.exitCode = 1 ∧ o.failedStep = some s.step.name := by
  obtain ⟨stages, htrail⟩ := trail_of_execute hrun
  refine ⟨stages, htrail, htrail.artifacts_eq, ⟨fun hall => ⟨?_, ?_⟩, ?_⟩,
    fun s hs => htrail.last_of_unopened hkinds hs⟩
  · intro s hs hkind
    refine Option.eq_none_iff_forall_ne_some.mpr fun p hartifact => ?_
    obtain ⟨_, _, hopens⟩ := hall s hs p hartifact
    exact hopens.writes.kind hkind
  · intro s hlast hunopened
    obtain ⟨p, hartifact⟩ := hunopened.artifact
    exact hunopened.not_opens p (hall s (List.mem_of_getLast? hlast) p hartifact)
  · rintro ⟨hannounce, hlast⟩ s hs p hartifact
    have hkind : s.step.kind ≠ .announce := by
      intro hkind
      rw [hannounce s hs hkind] at hartifact
      cases hartifact
    obtain ⟨e, hanswer⟩ := htrail.exists_execution hs
    have hstage := htrail.runFrom_eq hs
    rw [hanswer] at hstage
    rcases Stage.opens_or_unopened hstage hkind hartifact with hopens | ⟨hunopened, -⟩
    · exact hopens
    · exact absurd hunopened (hlast s (htrail.last_of_unopened hkinds hs hunopened).1)

def benchIn (name directory artifact : String) : Step :=
  { name := name, kind := .command, words := ["bench"], directory := some (Path.ofString directory),
    artifact := some (Path.ofString artifact) }

/-- The second benchmark is to run in a directory that is not there. -/
def halfOpened : List Step :=
  [Plan.announce "start" "Benchmarking...", benchIn "first" "/work" "/work/out/first",
    benchIn "second" "/work/missing" "/work/out/second"]

theorem artifacts_opened_iff_half_opened :
    let run := runFrom (execute (runStep failingFetch) false 0 halfOpened : Act Outcome) (.inWork [] [])
    (∀ step ∈ halfOpened, step.kind = .announce ∨ step.kind = .command) ∧ ∃ o, run = (.ok o, run.2) ∧
      ∃ stages, Trail (runStep failingFetch) false 0 halfOpened (.inWork [] []) stages (.ok o) run.2 ∧
        o.artifacts = stages.filterMap (fun s => s.step.artifact) ∧
        ((∀ s ∈ stages, ∀ p, s.step.artifact = some p → s.Opens p) ↔
          (∀ s ∈ stages, s.step.kind = .announce → s.step.artifact = none) ∧
            ∀ s, stages.getLast? = some s → ¬s.Unopened) ∧
        ∀ s ∈ stages, s.Unopened →
          stages.getLast? = some s ∧ o.exitCode = 1 ∧ o.failedStep = some s.step.name := by
  intro run
  have hkinds : ∀ step ∈ halfOpened, step.kind = .announce ∨ step.kind = .command := by decide
  obtain ⟨o, hrun⟩ : ∃ o, run = (.ok o, run.2) := exists_runFrom_of_isOk (by decide +kernel)
  exact ⟨hkinds, o, hrun, artifacts_opened_iff hkinds hrun⟩

/-- A step without its working directory has opened nothing, and its artifact counts all the same. -/
theorem not_artifacts_opened_missing_directory :
    ¬∀ (launch : Launcher) (timeout : Int) (steps : List Step) (m m' : Machine) (o : Outcome),
      (∀ step ∈ steps, step.kind = .announce ∨ step.kind = .command) →
      runFrom (execute (runStep launch) false timeout steps : Act Outcome) m = (.ok o, m') →
      ∃ stages, Trail (runStep launch) false timeout steps m stages (.ok o) m' ∧
        ∀ p ∈ o.artifacts, ∃ s ∈ stages, s.Opens p := by
  intro h
  let step := benchIn "bench" "/work/missing" "/work/out"
  obtain ⟨o, hrun⟩ : ∃ o, runFrom (execute (runStep failingFetch) false 0 [step] : Act Outcome)
      (.inWork [] []) = (.ok o, _) := exists_runFrom_of_isOk (by decide +kernel)
  obtain ⟨stages, htrail, hopened⟩ := h _ _ _ _ _ o (by decide) hrun
  have hmissing : ¬(told step (.inWork [] [])).HasDirectory (Path.ofString "/work/missing") := by
    intro hplace
    have hthere := yields_iff.mpr (answer_isDirectory_eq_true_iff.mpr hplace)
    revert hthere
    decide +kernel
  obtain ⟨answer, m₁, later, rfl⟩ := htrail.exists_head
  have hlater : later = [] := by
    have hprefix := htrail.map_step_prefix
    simpa using hprefix
  subst hlater
  have hartifact : Path.ofString "/work/out" ∈ o.artifacts := by
    rw [htrail.artifacts_eq]
    exact List.mem_singleton_self _
  obtain ⟨s, hs, l, m₂, hopens⟩ := hopened _ hartifact
  obtain rfl := List.mem_singleton.mp hs
  exact hmissing (hopens.writes.place _ rfl)

end MergeBench.Run
