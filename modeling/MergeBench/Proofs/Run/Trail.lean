import MergeBench.Proofs.Run.Passage

/-!
The trail of a run: every step that it came to, with the machine before it, what came of it, and the
machine after it. Runs that end with a fault leave a trail as well as those that return. The calls along
it are a course, and what each step adds to a part of the machine is added up by induction on it.
-/

namespace MergeBench.Run

structure Stage where
  step : Step
  before : Machine
  answer : Except Fault Execution
  after : Machine

/-- How a run gets from one machine to another, and what it comes to. -/
inductive Trail (runner : StepRunner Act) (dryRun : Bool) (timeout : Int) :
    List Step → Machine → List Stage → Except Fault Outcome → Machine → Prop
  | done (m : Machine) : Trail runner dryRun timeout [] m [] (.ok { exitCode := 0 }) m
  | raised {step : Step} {f : Fault} {m m' : Machine} (rest : List Step)
      (hstep : runFrom (runner step dryRun timeout) m = (.error f, m')) :
      Trail runner dryRun timeout (step :: rest) m [⟨step, m, .error f, m'⟩] (.error f) m'
  | aborted {step : Step} {e : Execution} {m m' : Machine} (rest : List Step)
      (hstep : runFrom (runner step dryRun timeout) m = (.ok e, m')) (h : aborts step e = true) :
      Trail runner dryRun timeout (step :: rest) m [⟨step, m, .ok e, m'⟩]
        (.ok (Run.aborted dryRun step e)) (m'.report ⟨.error, .orchestrator, abortText step e⟩)
  | continued {step : Step} {e : Execution} {rest : List Step} {m m₁ m' : Machine}
      {stages : List Stage} {r : Except Fault Outcome}
      (hstep : runFrom (runner step dryRun timeout) m = (.ok e, m₁)) (h : aborts step e = false)
      (later : Trail runner dryRun timeout rest m₁ stages r m') :
      Trail runner dryRun timeout (step :: rest) m (⟨step, m, .ok e, m₁⟩ :: stages)
        (r.map (precede dryRun step e)) m'

variable {runner : StepRunner Act} {launch : Launcher} {dryRun : Bool} {timeout : Int}
  {steps rest : List Step} {step : Step} {stages : List Stage} {s : Stage} {m m' : Machine}
  {r : Except Fault Outcome} {o : Outcome}

theorem trail_of_execute
    (h : runFrom (execute runner dryRun timeout steps : Act Outcome) m = (r, m')) :
    ∃ stages, Trail runner dryRun timeout steps m stages r m' := by
  induction steps generalizing m m' r with
  | nil =>
    cases h
    exact ⟨[], .done _⟩
  | cons step rest ih =>
    rw [execute, runFrom_bind] at h
    rcases hstep : runFrom (runner step dryRun timeout) m with ⟨f | e, m₁⟩ <;> rw [hstep] at h
    · cases h
      exact ⟨_, .raised rest hstep⟩
    · dsimp only at h
      split at h
      case isTrue habort =>
        cases h
        exact ⟨_, .aborted rest hstep habort⟩
      case isFalse hpass =>
        have hpass' : aborts step e = false := by simpa using hpass
        rw [runFrom_bind] at h
        rcases hlater : runFrom (execute runner dryRun timeout rest : Act Outcome) m₁ with ⟨f | o, m₂⟩
        all_goals
          obtain ⟨stages, htrail⟩ := ih hlater
          rw [hlater] at h
          cases h
          exact ⟨_, .continued hstep hpass' htrail⟩

/-! ### What a trail tells -/

def Stage.call (dryRun : Bool) (timeout : Int) (s : Stage) : Call :=
  ⟨s.step, dryRun, timeout, s.answer⟩

theorem Trail.course (h : Trail runner dryRun timeout steps m stages r m') :
    Course dryRun timeout steps (stages.map (Stage.call dryRun timeout)) r := by
  induction h with
  | done => exact .done
  | raised rest hstep => exact .raised _ rest _
  | aborted rest hstep habort => exact .aborted _ rest _ habort
  | continued hstep hpass later ih => exact .continued _ _ hpass ih

theorem Trail.runFrom_eq (h : Trail runner dryRun timeout steps m stages r m') (hs : s ∈ stages) :
    runFrom (runner s.step dryRun timeout) s.before = (s.answer, s.after) := by
  induction h with
  | done => cases hs
  | raised rest hstep | aborted rest hstep habort =>
    obtain rfl := List.mem_singleton.mp hs
    exact hstep
  | continued hstep hpass later ih =>
    rcases List.mem_cons.mp hs with rfl | hs
    · exact hstep
    · exact ih hs

theorem Trail.map_step_prefix (h : Trail runner dryRun timeout steps m stages r m') :
    stages.map Stage.step <+: steps := by
  have hprefix := h.course.inOrder.steps_prefix
  rwa [List.map_map] at hprefix

theorem Trail.mem_steps (h : Trail runner dryRun timeout steps m stages r m') (hs : s ∈ stages) :
    s.step ∈ steps :=
  h.map_step_prefix.subset (List.mem_map_of_mem hs)

theorem Trail.exists_head (h : Trail runner dryRun timeout (step :: rest) m stages r m') :
    ∃ answer m₁ later, stages = ⟨step, m, answer, m₁⟩ :: later := by
  cases h with
  | raised | aborted | continued => exact ⟨_, _, _, rfl⟩

theorem Trail.exists_execution (h : Trail runner dryRun timeout steps m stages (.ok o) m')
    (hs : s ∈ stages) : ∃ e, s.answer = .ok e := by
  have hexecutions := h.course.accounts.executions
  rw [List.map_map] at hexecutions
  have hanswer : s.answer ∈ o.executions.map .ok := by
    rw [hexecutions]
    exact List.mem_map_of_mem hs
  obtain ⟨e, -, he⟩ := List.mem_map.mp hanswer
  exact ⟨e, he.symm⟩

/-- A command that fails is the last step that a run comes to, and the outcome is about it. -/
theorem Trail.last_of_fails {e : Execution}
    (h : Trail runner dryRun timeout steps m stages (.ok o) m') (hs : s ∈ stages)
    (hkind : s.step.kind = .command) (hanswer : s.answer = .ok e) (hstatus : e.exitCode ≠ 0) :
    stages.getLast? = some s ∧ o.exitCode = e.exitCode ∧ o.failedStep = some s.step.name := by
  generalize hr : Except.ok o = r at h
  induction h generalizing o with
  | done => cases hs
  | raised => cases hr
  | aborted rest hstep habort =>
    obtain rfl := List.mem_singleton.mp hs
    cases hr
    cases hanswer
    exact ⟨rfl, rfl, rfl⟩
  | @continued step e' rest m m₁ m' stages r hstep hpass later ih =>
    cases r with
    | error f => cases hr
    | ok o' =>
      cases hr
      rcases List.mem_cons.mp hs with rfl | hs
      · cases hanswer
        exact absurd (aborts_eq_false_iff.mp hpass hkind) hstatus
      · obtain ⟨hlast, hcode, hfailed⟩ := ih hs rfl
        refine ⟨?_, hcode, hfailed⟩
        rw [List.getLast?_cons, hlast]
        rfl

theorem Trail.artifacts_eq (h : Trail runner false timeout steps m stages (.ok o) m') :
    o.artifacts = stages.filterMap fun s => s.step.artifact := by
  have hartifacts := h.course.accounts.artifacts
  rw [if_neg (by simp), List.filterMap_map] at hartifacts
  exact hartifacts

/-! ### What is touched on the way -/

/-- One of these stages names the path as its artifact. -/
def Named (stages : List Stage) (p : Path) : Prop :=
  ∃ s ∈ stages, s.step.artifact = some p

theorem Named.cons {p : Path} (h : Named stages p) (s : Stage) : Named (s :: stages) p := by
  obtain ⟨t, ht, hartifact⟩ := h
  exact ⟨t, List.mem_cons_of_mem s ht, hartifact⟩

theorem touches_named {runs : List Stage} (hlaunch : launch.LeavesFiles) (hs : s ∈ runs)
    (hrun : runFrom (runStep launch s.step false timeout) s.before = (s.answer, s.after)) :
    s.before.Touches (Named runs) s.after :=
  (touches_of_runStep hlaunch hrun).mono fun _ hwrites => ⟨s, hs, hwrites.artifact⟩

theorem Trail.touches (hlaunch : launch.LeavesFiles)
    (h : Trail (runStep launch) false timeout steps m stages r m') : m.Touches (Named stages) m' := by
  induction h with
  | done => exact .refl _
  | @raised step f m m' rest hstep =>
    exact touches_named (s := ⟨step, m, .error f, m'⟩) hlaunch (List.mem_singleton_self _) hstep
  | @aborted step e m m' rest hstep habort =>
    have hstage := touches_named (s := ⟨step, m, .ok e, m'⟩) hlaunch (List.mem_singleton_self _) hstep
    exact hstage.trans (.of_unsaid (Machine.unsaid_report _ _))
  | @continued step e rest m m₁ m' stages r hstep hpass later ih =>
    let s : Stage := ⟨step, m, .ok e, m₁⟩
    have hstage : m.Touches (Named (s :: stages)) m₁ := touches_named hlaunch List.mem_cons_self hstep
    exact hstage.trans (ih.mono fun _ hp => hp.cons s)

/-- Up to a stage the earlier ones have touched something, and from it on the later ones. -/
theorem Trail.touches_around (hlaunch : launch.LeavesFiles)
    (h : Trail (runStep launch) false timeout steps m stages r m') {earlier later : List Stage}
    (hstages : stages = earlier ++ s :: later) :
    m.Touches (Named earlier) s.before ∧ s.after.Touches (Named later) m' := by
  induction h generalizing earlier with
  | done => simp at hstages
  | raised =>
    cases earlier with
    | nil =>
      obtain ⟨rfl, rfl⟩ := List.cons.inj hstages
      exact ⟨.refl _, .refl _⟩
    | cons => simp at hstages
  | aborted =>
    cases earlier with
    | nil =>
      obtain ⟨rfl, rfl⟩ := List.cons.inj hstages
      exact ⟨.refl _, .of_unsaid (Machine.unsaid_report _ _)⟩
    | cons => simp at hstages
  | @continued step e rest m m₁ m' stages r hstep hpass htail ih =>
    cases earlier with
    | nil =>
      obtain ⟨rfl, rfl⟩ := List.cons.inj hstages
      exact ⟨.refl _, htail.touches hlaunch⟩
    | cons t earlier =>
      obtain ⟨rfl, hrest⟩ := List.cons.inj hstages
      obtain ⟨hbefore, hafter⟩ := ih hrest
      let t : Stage := ⟨step, m, .ok e, m₁⟩
      have hstage : m.Touches (Named (t :: earlier)) m₁ :=
        touches_named hlaunch List.mem_cons_self hstep
      exact ⟨hstage.trans (hbefore.mono fun _ hp => hp.cons t), hafter⟩

/-! ### Open files -/

def Stage.told (s : Stage) : Machine :=
  Run.told s.step s.before

/-- The working directory of the stage is there, and the file for its output is created or emptied. -/
structure Stage.OpensAt (s : Stage) (p : Path) (l : Location) (m₁ : Machine) : Prop where
  writes : Writes s.step s.told p
  opened : runFrom (Command.openArtifact p) s.told = (.ok l, m₁)

end MergeBench.Run
