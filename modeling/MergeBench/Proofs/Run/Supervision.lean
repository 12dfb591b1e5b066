import MergeBench.Proofs.Activity
import MergeBench.Run

/-!
Step runners of any kind. A supervised activity keeps a state of its own beside the machine, so that
the answers of a runner may depend on all that it was asked before; the state outlives a fault. A
recorded runner writes down every call and its answer and is otherwise the runner it records.
-/

namespace MergeBench

abbrev Supervised (σ α : Type) : Type :=
  ExceptT Fault (StateT σ (StateM Machine)) α

variable {σ α β : Type}

/-- An activity leaves the state beside it alone. -/
instance : MonadLift Act (Supervised σ) :=
  ⟨fun act s m => ((answer act m, s), (runFrom act m).2)⟩

def superviseFrom (act : Supervised σ α) (s : σ) (m : Machine) : Except Fault α × σ × Machine :=
  let ((r, s'), m') := ((ExceptT.run act).run s).run m
  (r, s', m')

theorem superviseFrom_lift (act : Act α) (s : σ) (m : Machine) :
    superviseFrom (liftM act : Supervised σ α) s m = (answer act m, s, (runFrom act m).2) := rfl

theorem superviseFrom_bind (act : Supervised σ α) (next : α → Supervised σ β) (s : σ)
    (m : Machine) :
    superviseFrom (act >>= next) s m =
      match superviseFrom act s m with
      | (.ok a, s', m') => superviseFrom (next a) s' m'
      | (.error f, s', m') => (.error f, s', m') := by
  unfold superviseFrom ExceptT.run StateT.run
  simp only [bind, ExceptT.bind, ExceptT.mk, StateT.bind, ExceptT.bindCont]
  cases act s m with
  | mk r m' =>
    obtain ⟨r, s'⟩ := r
    cases r <;> rfl

instance : LawfulMonadLift Act (Supervised σ) where
  monadLift_pure _ := rfl
  monadLift_bind act next := by
    funext s m
    change ((answer (act >>= next) m, s), (runFrom (act >>= next) m).2) = _
    unfold answer
    rw [runFrom_bind]
    simp only [MonadLift.monadLift, bind, ExceptT.bind, ExceptT.mk, StateT.bind, ExceptT.bindCont,
      answer]
    rcases runFrom act m with ⟨f | a, m'⟩ <;> rfl

/-! ### Recording -/

/-- A call of a step runner with all that it was given, and what came of it. -/
structure Call where
  step : Step
  dryRun : Bool
  timeout : Int
  answer : Except Fault Execution

namespace Call

/-- The step was executed and its status is zero. -/
def Succeeds (c : Call) : Prop :=
  ∃ e, c.answer = .ok e ∧ e.exitCode = 0

/-- The step was executed, and it is no failing command. -/
def Passes (c : Call) : Prop :=
  ∃ e, c.answer = .ok e ∧ (c.step.kind = .command → e.exitCode = 0)

theorem Passes.succeeds {c : Call} (h : c.Passes) (hkind : c.step.kind = .command) :
    c.Succeeds := by
  obtain ⟨e, hanswer, hstatus⟩ := h
  exact ⟨e, hanswer, hstatus hkind⟩

end Call

def recorded (runner : StepRunner (Supervised σ)) : StepRunner (Supervised (σ × List Call)) :=
  fun step dryRun timeout state m =>
    let (r, s, m') := superviseFrom (runner step dryRun timeout) state.1 m
    ((r, s, state.2 ++ [⟨step, dryRun, timeout, r⟩]), m')

theorem superviseFrom_recorded (runner : StepRunner (Supervised σ)) (step : Step) (dryRun : Bool)
    (timeout : Int) (s : σ) (log : List Call) (m : Machine) :
    superviseFrom (recorded runner step dryRun timeout) (s, log) m =
      let (r, s', m') := superviseFrom (runner step dryRun timeout) s m
      (r, (s', log ++ [⟨step, dryRun, timeout, r⟩]), m') := rfl

/-- The runner gives these answers to these calls, each in some state and on some machine. -/
def Answers (runner : StepRunner (Supervised σ)) (calls : List Call) : Prop :=
  ∀ c ∈ calls, ∃ s m, (superviseFrom (runner c.step c.dryRun c.timeout) s m).1 = c.answer

theorem Answers.nil (runner : StepRunner (Supervised σ)) : Answers runner [] :=
  List.forall_mem_nil _

theorem Answers.cons {runner : StepRunner (Supervised σ)} {c : Call} {calls : List Call} {s s' : σ}
    {m m' : Machine} (hcall : superviseFrom (runner c.step c.dryRun c.timeout) s m = (c.answer, s', m'))
    (h : Answers runner calls) : Answers runner (c :: calls) :=
  List.forall_mem_cons.mpr ⟨⟨s, m, by rw [hcall]⟩, h⟩

/-- The activity with this runner makes these calls, no others, and comes to this result. To record it
changes neither the result nor what is left behind. -/
def Makes (act : ∀ {τ : Type}, StepRunner (Supervised τ) → Supervised τ α)
    (runner : StepRunner (Supervised σ)) (s : σ) (m : Machine) (calls : List Call)
    (r : Except Fault α) : Prop :=
  ∃ s' m', superviseFrom (act runner) s m = (r, s', m') ∧
    ∀ log, superviseFrom (act (recorded runner)) (s, log) m = (r, (s', log ++ calls), m')

end MergeBench
