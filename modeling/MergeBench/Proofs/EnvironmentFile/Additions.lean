import MergeBench.Proofs.Dotenv
import MergeBench.Proofs.SameWith
import MergeBench.Proofs.Startup

namespace MergeBench

variable {α β : Type} {m m₁ : Machine} {path : Path} {offered : List (String × String)}

/-! ### Variables that are set one after another -/

/-- The activity sets the first of the variables that are offered, and all of them if it ends well. -/
def TakesUp (m : Machine) (act : Act α) (offered : List (String × String)) : Prop :=
  ∃ taken, taken <+: offered ∧ (runFrom act m).2.environment = m.environment.setAll taken ∧
    ∀ a, answer act m = .ok a → taken = offered

theorem Quiet.takesUp {act : Act α} (h : Quiet act) (m : Machine) : TakesUp m act [] :=
  ⟨[], List.prefix_rfl, (h.sameWorld m).environment, fun _ _ => rfl⟩

theorem Quiet.takesUp_bind {act : Act α} {next : α → Act β} (h : Quiet act)
    (hnext : ∀ a m₁, runFrom act m = (.ok a, m₁) → TakesUp m₁ (next a) offered) :
    TakesUp m (act >>= next) offered := by
  unfold TakesUp answer
  rw [runFrom_bind]
  rcases hrun : runFrom act m with ⟨f | a, m₁⟩
  · exact ⟨[], List.nil_prefix, (h.sameWorld_of_runFrom hrun).environment, nofun⟩
  · rw [← (h.sameWorld_of_runFrom hrun).environment]
    exact hnext a m₁ hrun

theorem TakesUp.bind_quiet {act : Act α} {next : α → Act β} (h : TakesUp m act offered)
    (hnext : ∀ a, Quiet (next a)) : TakesUp m (act >>= next) offered := by
  obtain ⟨taken, hfirst, henv, hall⟩ := h
  unfold answer at hall
  refine ⟨taken, hfirst, ?_⟩
  unfold answer
  rw [runFrom_bind]
  rcases hrun : runFrom act m with ⟨f | a, m₁⟩
  all_goals rw [hrun] at henv hall
  · exact ⟨henv, nofun⟩
  · exact ⟨((hnext a).sameWorld m₁).environment.trans henv, fun _ _ => hall a rfl⟩

theorem TakesUp.get_bind {next : Machine → Act α} (h : TakesUp m (next m) offered) :
    TakesUp m (get >>= next) offered :=
  h

theorem TakesUp.guarded {c : Prop} [Decidable c] {f : Fault} {next : PUnit → Act α}
    (h : TakesUp m (next ()) offered) :
    TakesUp m (if c then throw f >>= next else next ()) offered := by
  split
  · exact ⟨[], List.nil_prefix, rfl, nofun⟩
  · exact h

theorem TakesUp.environment_of_ok {act : Act α} {a : α} (h : TakesUp m act offered)
    (hrun : runFrom act m = (.ok a, m₁)) : m₁.environment = m.environment.setAll offered := by
  obtain ⟨taken, -, henv, hall⟩ := h
  rw [hall a (answer_eq_iff.mpr ⟨m₁, hrun⟩), hrun] at henv
  exact henv

theorem TakesUp.mem_of_get? {act : Act α} {name value : String} (h : TakesUp m act offered)
    (hfree : m.environment.get? name = none)
    (hvalue : (runFrom act m).2.environment.get? name = some value) : (name, value) ∈ offered := by
  obtain ⟨taken, hfirst, henv, -⟩ := h
  rw [henv] at hvalue
  rcases Environment.get?_setAll_cases hvalue with hset | hmem
  · cases hfree.symm.trans hset
  · exact hfirst.subset hmem

namespace Startup

theorem quiet_reportUnreadable (lines : List Nat) : Quiet (reportUnreadable lines) := by
  induction lines with
  | nil => exact quiet_pure ()
  | cons line rest ih => exact (quiet_report _ _ _).bind fun _ => ih

theorem takesUp_setVariables (bindings : List (String × String)) (m : Machine) :
    TakesUp m (setVariables bindings) bindings := by
  induction bindings generalizing m with
  | nil => exact (quiet_pure ()).takesUp m
  | cons binding rest ih =>
    obtain ⟨name, value⟩ := binding
    unfold setVariables
    refine .guarded (.guarded ?_)
    obtain ⟨taken, hfirst, henv, hall⟩ :=
      ih { m with environment := m.environment.set name value }
    refine ⟨(name, value) :: taken, (List.prefix_cons_inj _).mpr hfirst, henv, fun u hu => ?_⟩
    rw [hall u hu]

/-- What the bindings of a file have for the environment of the machine. -/
def additionsOf (found : List Dotenv.Statement) (m : Machine) : List (String × String) :=
  Dotenv.additions m.environment (Dotenv.resolve m.environment (Dotenv.bindings found))

theorem takesUp_addBindings (found : List Dotenv.Statement) (m : Machine) :
    TakesUp m (addBindings found) (additionsOf found m) := by
  refine (quiet_reportUnreadable _).takesUp_bind fun _ m₁ hreport => ?_
  unfold additionsOf
  rw [← ((quiet_reportUnreadable _).sameWorld_of_runFrom hreport).environment]
  exact .get_bind ((takesUp_setVariables _ m₁).bind_quiet fun _ => quiet_pure _)

/-! ### What is read of a file -/

/-- The statements of the file at a path. Where there is no file, there are none. -/
def statementsAt (path : Path) : Act (List Dotenv.Statement) := do
  if ← isFile path then return Dotenv.statements (← readText path) else return []

theorem loadFile_eq_statementsAt (path : Path) :
    loadFile path = get >>= fun m =>
      if isDisabled m.environment then do
        report .debug .environmentFile
          s!"python-dotenv: .env loading disabled by {disablingVariable} environment variable"
        return false
      else statementsAt path >>= addBindings := by
  rw [loadFile_eq]
  unfold statementsAt
  simp only [bind_assoc, apply_ite (· >>= addBindings), pure_bind]

theorem quiet_statementsAt (path : Path) : Quiet (statementsAt path) := by
  refine (quiet_isFile path).bind fun there => ?_
  split
  · exact (quiet_readText path).bind fun text => quiet_pure _
  · exact quiet_pure []

theorem steady_statementsAt {κ : Type} {view : Machine → κ} (path : Path) :
    Steady view (statementsAt path) := by
  refine (steady_isFile path).bind fun there => ?_
  split
  · exact (steady_readText path).bind fun text => steady_pure _
  · exact steady_pure []

theorem answer_statementsAt_congr (hfiles : m₁.files = m.files)
    (hdirectory : m₁.directory = m.directory) (path : Path) :
    answer (statementsAt path) m₁ = answer (statementsAt path) m := by
  unfold statementsAt
  simp only [(steady_isFile path).answer_bind, answer_isFile_congr hfiles hdirectory]
  congr 1
  funext there
  split
  · simp only [(steady_readText path).answer_bind, answer_readText_congr hfiles hdirectory]
    rfl
  · rfl

theorem answer_statementsAt_of_missing (h : answer (pathExists path) m = .ok false) :
    answer (statementsAt path) m = .ok [] := by
  have hentry : answer (entryAt path.text) m = .ok none := by
    unfold pathExists at h
    rw [(steady_entryAt _).answer_bind] at h
    rcases hentry : answer (entryAt path.text) m with f | entry
    all_goals rw [hentry] at h
    · cases h
    · cases entry with
      | none => rfl
      | some e => cases h
  unfold statementsAt isFile
  simp only [(steady_entryAt _).answer_bind, hentry, bind_assoc]
  rfl

/-! ### Loading a file -/

/-- What the file at a path has for the environment, if loading is not turned off. -/
def additionsAt (path : Path) (m : Machine) : List (String × String) :=
  if isDisabled m.environment then []
  else
    match answer (statementsAt path) m with
    | .ok found => additionsOf found m
    | .error _ => []

theorem takesUp_loadFile (path : Path) (m : Machine) :
    TakesUp m (loadFile path) (additionsAt path m) := by
  rw [loadFile_eq_statementsAt]
  refine .get_bind ?_
  unfold additionsAt
  split
  · exact ((quiet_report _ _ _).bind fun _ => quiet_pure false).takesUp m
  · refine (quiet_statementsAt path).takesUp_bind fun found m₁ hread => ?_
    obtain rfl := (steady_statementsAt path).eq_of_runFrom hread
    rw [answer_eq_iff.mpr ⟨_, hread⟩]
    exact takesUp_addBindings found m₁

theorem additionsAt_of_missing (h : answer (pathExists path) m = .ok false) :
    additionsAt path m = [] := by
  unfold additionsAt
  rw [answer_statementsAt_of_missing h]
  split <;> rfl

theorem takesUp_loadIfThere (path : Path) (m : Machine) :
    TakesUp m (loadIfThere path) (additionsAt path m) := by
  refine (quiet_pathExists path).takesUp_bind fun there m₁ hthere => ?_
  obtain rfl := (steady_pathExists path).eq_of_runFrom hthere
  cases there with
  | true => exact takesUp_loadFile path m₁
  | false =>
    rw [additionsAt_of_missing (answer_eq_iff.mpr ⟨_, hthere⟩)]
    exact (quiet_pure false).takesUp m₁

theorem free_of_mem_additionsAt {b : String × String} (h : b ∈ additionsAt path m) :
    m.environment.get? b.1 = none := by
  unfold additionsAt at h
  split at h
  · cases h
  · split at h
    · exact (Dotenv.mem_additions_iff.mp h).1
    · cases h

end Startup

end MergeBench
