import MergeBench.Proofs.Run.Supervision

/-!
A run stops at the first command that fails. `Course` lists how a run can go on from each step;
every run takes one course, and from the course follow the order of the calls and what the outcome
tells about them.
-/

namespace MergeBench.Run

variable {σ : Type} {dryRun : Bool} {timeout : Int} {steps rest : List Step} {calls : List Call}

def artifactOf (dryRun : Bool) (step : Step) : List Path :=
  if dryRun then [] else step.artifact.toList

/-- The outcome of a run that began with one more step. -/
def precede (dryRun : Bool) (step : Step) (e : Execution) (later : Outcome) : Outcome :=
  { later with
    executions := e :: later.executions
    artifacts := artifactOf dryRun step ++ later.artifacts }

def aborted (dryRun : Bool) (step : Step) (e : Execution) : Outcome :=
  { exitCode := e.exitCode, executions := [e], failedStep := some step.name,
    artifacts := artifactOf dryRun step }

/-- The calls that a run of the steps may make, with what the run comes to. -/
inductive Course (dryRun : Bool) (timeout : Int) :
    List Step → List Call → Except Fault Outcome → Prop
  | done : Course dryRun timeout [] [] (.ok { exitCode := 0 })
  | raised (step : Step) (rest : List Step) (f : Fault) :
      Course dryRun timeout (step :: rest) [⟨step, dryRun, timeout, .error f⟩] (.error f)
  | aborted (step : Step) (rest : List Step) (e : Execution) (h : aborts step e = true) :
      Course dryRun timeout (step :: rest) [⟨step, dryRun, timeout, .ok e⟩]
        (.ok (Run.aborted dryRun step e))
  | continued (step : Step) (e : Execution) {rest : List Step} {calls : List Call}
      {r : Except Fault Outcome} (h : aborts step e = false)
      (later : Course dryRun timeout rest calls r) :
      Course dryRun timeout (step :: rest) (⟨step, dryRun, timeout, .ok e⟩ :: calls)
        (r.map (precede dryRun step e))

theorem aborts_eq_true_iff {step : Step} {e : Execution} :
    aborts step e = true ↔ step.kind = .command ∧ e.exitCode ≠ 0 := by
  simp [aborts, Execution.isOk]

theorem aborts_eq_false_iff {step : Step} {e : Execution} :
    aborts step e = false ↔ (step.kind = .command → e.exitCode = 0) := by
  simp [aborts, Execution.isOk]

/-! ### One step, and a whole run -/

theorem superviseFrom_execute_cons (runner : StepRunner (Supervised σ)) (step : Step) (s : σ)
    (m : Machine) :
    superviseFrom (execute runner dryRun timeout (step :: rest)) s m =
      match superviseFrom (runner step dryRun timeout) s m with
      | (.error f, s', m') => (.error f, s', m')
      | (.ok e, s', m') =>
        if aborts step e then
          (.ok (aborted dryRun step e), s', m'.report ⟨.error, .orchestrator, abortText step e⟩)
        else
          match superviseFrom (execute runner dryRun timeout rest) s' m' with
          | (r, s'', m'') => (r.map (precede dryRun step e), s'', m'') := by
  rw [execute, superviseFrom_bind]
  cases superviseFrom (runner step dryRun timeout) s m with
  | mk r after =>
    obtain ⟨s', m'⟩ := after
    cases r with
    | error f => rfl
    | ok e =>
      dsimp only
      split
      · rfl
      · rw [superviseFrom_bind]
        cases superviseFrom (execute runner dryRun timeout rest) s' m' with
        | mk r after =>
          obtain ⟨s'', m''⟩ := after
          cases r <;> rfl

theorem exists_answered_course (runner : StepRunner (Supervised σ)) (dryRun : Bool) (timeout : Int)
    (steps : List Step) (s : σ) (m : Machine) :
    ∃ calls r, Makes (fun runner => execute runner dryRun timeout steps) runner s m calls r ∧
      Course dryRun timeout steps calls r ∧ Answers runner calls := by
  -- the recorded run goes on with a longer log, which `Makes` leaves open
  induction steps generalizing s m with
  | nil =>
    refine ⟨[], .ok { exitCode := 0 }, ⟨s, m, rfl, fun log => ?_⟩, .done, .nil runner⟩
    rw [List.append_nil]
    rfl
  | cons step rest ih =>
    cases hcall : superviseFrom (runner step dryRun timeout) s m with
    | mk r after =>
      obtain ⟨s', m'⟩ := after
      cases r with
      | error f =>
        refine ⟨_, _, ⟨s', m', ?_, fun log => ?_⟩, .raised step rest f, .cons hcall (.nil runner)⟩
        · rw [superviseFrom_execute_cons, hcall]
        · rw [superviseFrom_execute_cons, superviseFrom_recorded, hcall]
      | ok e =>
        cases habort : aborts step e with
        | true =>
          refine ⟨_, _, ⟨s', m'.report ⟨.error, .orchestrator, abortText step e⟩, ?_,
            fun log => ?_⟩, .aborted step rest e habort, .cons hcall (.nil runner)⟩
          · simp only [superviseFrom_execute_cons, hcall, habort, ↓reduceIte]
          · simp only [superviseFrom_execute_cons, superviseFrom_recorded, hcall, habort,
              ↓reduceIte]
        | false =>
          obtain ⟨calls, r, ⟨s'', m'', hplain, hrecorded⟩, hcourse, hanswers⟩ := ih s' m'
          refine ⟨_, _, ⟨s'', m'', ?_, fun log => ?_⟩, .continued step e habort hcourse,
            .cons hcall hanswers⟩
          · simp only [superviseFrom_execute_cons, hcall, habort, hplain, Bool.false_eq_true,
              ↓reduceIte]
          · simp only [superviseFrom_execute_cons, superviseFrom_recorded, hcall, habort,
              hrecorded, Bool.false_eq_true, ↓reduceIte, List.append_assoc, List.singleton_append]

theorem exists_course (runner : StepRunner (Supervised σ)) (dryRun : Bool) (timeout : Int)
    (steps : List Step) (s : σ) (m : Machine) :
    ∃ calls r, Makes (fun runner => execute runner dryRun timeout steps) runner s m calls r ∧
      Course dryRun timeout steps calls r := by
  obtain ⟨calls, r, hmakes, hcourse, -⟩ := exists_answered_course runner dryRun timeout steps s m
  exact ⟨calls, r, hmakes, hcourse⟩

theorem liftM_execute (runner : StepRunner Act) (dryRun : Bool) (timeout : Int) (steps : List Step) :
    (liftM (execute runner dryRun timeout steps) : Supervised σ Outcome) =
      execute (fun step dryRun timeout => liftM (runner step dryRun timeout)) dryRun timeout steps := by
  induction steps with
  | nil => rfl
  | cons step rest ih =>
    rw [execute, execute, liftM_bind]
    congr 1
    funext e
    dsimp only
    split
    · rw [liftM_bind]
      rfl
    · rw [liftM_bind, ih]
      rfl

theorem course_of_execute {runner : StepRunner Act} {m m' : Machine} {r : Except Fault Outcome}
    (h : runFrom (execute runner dryRun timeout steps) m = (r, m')) :
    ∃ calls, Course dryRun timeout steps calls r ∧
      ∀ c ∈ calls, ∃ m, answer (runner c.step c.dryRun c.timeout) m = c.answer := by
  obtain ⟨calls, r', ⟨_, _, hplain, -⟩, hcourse, hanswers⟩ := exists_answered_course
    (fun step dryRun timeout => (liftM (runner step dryRun timeout) : Supervised Unit Execution))
    dryRun timeout steps () m
  dsimp only at hplain
  rw [← liftM_execute, superviseFrom_lift, answer, h] at hplain
  cases hplain
  refine ⟨calls, hcourse, fun c hc => ?_⟩
  obtain ⟨_, m, hcall⟩ := hanswers c hc
  exact ⟨m, hcall⟩

/-! ### The order of the calls -/

/-- Each call is for one step, in the order of the steps from the first one on, with the arguments of
the run, and only the last call may be for a command that fails or end with a fault. -/
structure InOrder (dryRun : Bool) (timeout : Int) (steps : List Step) (calls : List Call) : Prop where
  steps_prefix : calls.map Call.step <+: steps
  arguments : ∀ c ∈ calls, c.dryRun = dryRun ∧ c.timeout = timeout
  passes : ∀ c ∈ calls.dropLast, c.Passes

theorem Course.inOrder {r : Except Fault Outcome} (h : Course dryRun timeout steps calls r) :
    InOrder dryRun timeout steps calls := by
  induction h with
  | done => exact ⟨List.nil_prefix, by simp, by simp⟩
  | raised step rest f => exact ⟨by simp, by simp, by simp⟩
  | aborted step rest e h => exact ⟨by simp, by simp, by simp⟩
  | @continued step e rest calls r h later ih =>
    refine ⟨by simpa using ih.steps_prefix, by simpa using ih.arguments, fun c hc => ?_⟩
    cases calls with
    | nil => simp at hc
    | cons next others =>
      rw [List.dropLast_cons_cons, List.mem_cons] at hc
      rcases hc with rfl | hc
      · exact ⟨e, rfl, aborts_eq_false_iff.mp h⟩
      · exact ih.passes c hc

/-! ### What the outcome tells -/

/-- The run ended with this call, which is for a failing command. -/
def EndsAt (o : Outcome) (calls : List Call) : Prop :=
  ∃ c e, calls.getLast? = some c ∧ c.answer = .ok e ∧ c.step.kind = .command ∧ e.exitCode ≠ 0 ∧
    o.exitCode = e.exitCode ∧ o.failedStep = some c.step.name

/-- The run came to the end of its steps, none of which is a failing command. -/
def Completes (o : Outcome) (steps : List Step) (calls : List Call) : Prop :=
  calls.map Call.step = steps ∧ (∀ c ∈ calls, c.Passes) ∧ o.exitCode = 0 ∧ o.failedStep = none

/-- What an outcome tells about the calls of its run. -/
structure Accounts (dryRun : Bool) (steps : List Step) (calls : List Call) (o : Outcome) : Prop where
  executions : o.executions.map .ok = calls.map Call.answer
  artifacts : o.artifacts = if dryRun then [] else calls.filterMap fun c => c.step.artifact
  skipped : o.skipped = false
  ending : EndsAt o calls ∨ Completes o steps calls

theorem Accounts.precede {o : Outcome} {step : Step} {e : Execution}
    (h : Accounts dryRun rest calls o) (hpass : aborts step e = false) :
    Accounts dryRun (step :: rest) (⟨step, dryRun, timeout, .ok e⟩ :: calls)
      (precede dryRun step e o) where
  executions := by simp [Run.precede, h.executions]
  artifacts := by
    cases dryRun <;> cases hartifact : step.artifact <;>
      simp [Run.precede, artifactOf, h.artifacts, hartifact]
  skipped := h.skipped
  ending := by
    rcases h.ending with ⟨c, e', hlast, hend⟩ | ⟨hsteps, hpasses, hstatus, hfailed⟩
    · refine .inl ⟨c, e', ?_, hend⟩
      rw [List.getLast?_cons, hlast]
      rfl
    · refine .inr ⟨by simp [hsteps], ?_, hstatus, hfailed⟩
      rintro c (_ | ⟨_, hc⟩)
      · exact ⟨e, rfl, aborts_eq_false_iff.mp hpass⟩
      · exact hpasses c hc

theorem Course.accounts {o : Outcome} (h : Course dryRun timeout steps calls (.ok o)) :
    Accounts dryRun steps calls o := by
  generalize hr : Except.ok o = r at h
  induction h generalizing o with
  | done =>
    cases hr
    exact ⟨rfl, by simp, rfl, .inr ⟨rfl, by simp, rfl, rfl⟩⟩
  | raised step rest f => cases hr
  | aborted step rest e h =>
    cases hr
    obtain ⟨hkind, hstatus⟩ := aborts_eq_true_iff.mp h
    refine ⟨rfl, ?_, rfl, .inl ⟨_, e, rfl, rfl, hkind, hstatus, rfl, rfl⟩⟩
    cases dryRun <;> cases hartifact : step.artifact <;>
      simp [Run.aborted, artifactOf, hartifact]
  | @continued step e rest calls r h later ih =>
    cases r with
    | error f => cases hr
    | ok o' =>
      cases hr
      exact (ih rfl).precede h

/-- A run ends with a fault only where its last call does. -/
theorem Course.getLast?_of_error {f : Fault} (h : Course dryRun timeout steps calls (.error f)) :
    ∃ c, calls.getLast? = some c ∧ c.answer = .error f := by
  generalize hr : Except.error f = r at h
  induction h with
  | done => cases hr
  | raised step rest f' =>
    cases hr
    exact ⟨_, rfl, rfl⟩
  | aborted step rest e h => cases hr
  | @continued step e rest calls r h later ih =>
    cases r with
    | ok o => cases hr
    | error f' =>
      cases hr
      obtain ⟨c, hlast, hanswer⟩ := ih rfl
      refine ⟨c, ?_, hanswer⟩
      rw [List.getLast?_cons, hlast]
      rfl

/-- A run calls its runner once for each step of the shortest prefix that ends in a failing command,
or for every step if there is none, and its outcome accounts for exactly these calls. -/
theorem execute_shortest_prefix (runner : StepRunner (Supervised σ)) (dryRun : Bool) (timeout : Int)
    (steps : List Step) (s : σ) (m : Machine) :
    ∃ calls r, Makes (fun runner => execute runner dryRun timeout steps) runner s m calls r ∧
      InOrder dryRun timeout steps calls ∧
      match r with
      | .ok o => Accounts dryRun steps calls o
      | .error f => ∃ c, calls.getLast? = some c ∧ c.answer = .error f := by
  obtain ⟨calls, r, hmakes, hcourse⟩ := exists_course runner dryRun timeout steps s m
  refine ⟨calls, r, hmakes, hcourse.inOrder, ?_⟩
  cases r with
  | ok o => exact hcourse.accounts
  | error f => exact hcourse.getLast?_of_error

end MergeBench.Run
