import MergeBench.Proofs.Steady
import MergeBench.Startup

namespace MergeBench.Startup

variable {κ : Type} {view : Machine → κ} {m : Machine}

/-- The bindings of a file are put into the environment. -/
def addBindings (found : List Dotenv.Statement) : Act Bool := do
  reportUnreadable (Dotenv.unreadableLines found)
  let env := (← get).environment
  let resolved := Dotenv.resolve env (Dotenv.bindings found)
  setVariables (Dotenv.additions env resolved)
  return !resolved.isEmpty

theorem loadFile_eq (path : Path) :
    loadFile path = get >>= fun m =>
      if isDisabled m.environment then do
        report .debug .environmentFile
          s!"python-dotenv: .env loading disabled by {disablingVariable} environment variable"
        return false
      else isFile path >>= fun there =>
        if there then readText path >>= fun text => addBindings (Dotenv.statements text)
        else addBindings [] := by
  unfold loadFile addBindings
  simp only [pure_bind]

def loadIfThere (path : Path) : Act Bool := do
  if ← pathExists path then loadFile path else return false

def environmentPath (root : Path) : Path :=
  root.join (Path.ofString environmentFile)

theorem loadEnvironment_some (path : Path) : loadEnvironment (some path) = loadIfThere path := by
  unfold loadEnvironment loadIfThere
  simp only [pure_bind]

theorem loadEnvironment_none :
    loadEnvironment none = get >>= fun m => Repository.findRoot m.environment.get? >>= fun root =>
      loadIfThere (environmentPath root) := by
  unfold loadEnvironment loadIfThere environmentPath
  simp only [pure_bind]

theorem runFrom_findRoot {vars : Settings.Variables} {root : Path}
    (h : answer (Repository.findRoot vars) m = .ok root) :
    runFrom (Repository.findRoot vars) m = (.ok root, m) := by
  obtain ⟨m₁, hrun⟩ := answer_eq_iff.mp h
  obtain rfl := (steady_findRoot vars).eq_of_runFrom hrun
  exact hrun

/-- The file that is loaded is the one at the root. -/
theorem runFrom_loadEnvironment {root : Path}
    (h : answer (Repository.findRoot m.environment.get?) m = .ok root) :
    runFrom (loadEnvironment none) m = runFrom (loadIfThere (environmentPath root)) m := by
  rw [loadEnvironment_none, runFrom_bind, runFrom_get]
  dsimp only
  rw [runFrom_bind, runFrom_findRoot h]

theorem runFrom_configureDiagnostics (level : Option String) (m : Machine) :
    runFrom (configureDiagnostics level) m =
      match Diagnostics.levelNamed (levelText level m.environment) with
      | .error name => (.error (.notice (.invalidLogLevel name)), m)
      | .ok n =>
        (.ok (), { m with diagnostics := { m.diagnostics with threshold := n, attached := true } }) := by
  unfold configureDiagnostics
  rw [runFrom_bind, runFrom_get]
  dsimp only
  cases Diagnostics.levelNamed (levelText level m.environment) <;> rfl

/-! ### What is left alone -/

/-- What the view shows depends neither on the variables nor on what is said on standard error. -/
structure HidesSetup (view : Machine → κ) : Prop where
  report (m : Machine) (r : Record) : view (m.report r) = view m
  environment (m : Machine) (env : Environment) : view { m with environment := env } = view m
  diagnostics (m : Machine) (d : Diagnostics) : view { m with diagnostics := d } = view m

theorem hidesSetup_surface : HidesSetup Machine.surface :=
  ⟨Machine.surface_report, fun _ _ => rfl, fun _ _ => rfl⟩

theorem steady_reportUnreadable (h : HidesSetup view) (lines : List Nat) :
    Steady view (reportUnreadable lines) := by
  induction lines with
  | nil => exact steady_pure ()
  | cons line rest ih => exact (steady_report h.report _ _ _).bind fun _ => ih

theorem steady_setVariables (h : HidesSetup view) (bindings : List (String × String)) :
    Steady view (setVariables bindings) := by
  induction bindings with
  | nil => exact steady_pure ()
  | cons binding rest ih =>
    obtain ⟨name, value⟩ := binding
    unfold setVariables
    refine Steady.guarded ?_ (by nofun)
    refine Steady.guarded ?_ (by nofun)
    refine Steady.bind ?_ fun _ => ih
    exact steady_modify fun m => h.environment m _

theorem steady_addBindings (h : HidesSetup view) (found : List Dotenv.Statement) :
    Steady view (addBindings found) :=
  (steady_reportUnreadable h _).bind fun _ => steady_get_bind fun m =>
    (steady_setVariables h _).bind (fun _ => steady_pure _) m

theorem steady_loadFile (h : HidesSetup view) (path : Path) : Steady view (loadFile path) := by
  rw [loadFile_eq]
  refine steady_get_bind fun m => ?_
  split
  · exact (steady_report h.report _ _ _).bind (fun _ => steady_pure false) m
  · refine (steady_isFile path).bind (fun there => ?_) m
    split
    · exact (steady_readText path).bind fun text => steady_addBindings h _
    · exact steady_addBindings h []

theorem steady_loadIfThere (h : HidesSetup view) (path : Path) : Steady view (loadIfThere path) := by
  refine (steady_pathExists path).bind fun there => ?_
  split
  · exact steady_loadFile h path
  · exact steady_pure false

theorem steady_loadEnvironment (h : HidesSetup view) (given : Option Path) :
    Steady view (loadEnvironment given) := by
  cases given with
  | none =>
    rw [loadEnvironment_none]
    exact steady_get_bind fun m =>
      (steady_findRoot _).bind (fun root => steady_loadIfThere h _) m
  | some path =>
    rw [loadEnvironment_some]
    exact steady_loadIfThere h path

theorem steady_configureDiagnostics (h : HidesSetup view) (level : Option String) :
    Steady view (configureDiagnostics level) := by
  refine steady_get_bind fun m => ?_
  split
  · exact steady_throw (by nofun) m
  · exact steadyAt_set (h.diagnostics m _)

theorem steady_prepare (h : HidesSetup view) (loadVariables : Bool) (level : Option String) :
    Steady view (prepare loadVariables level) := by
  unfold prepare
  split
  · exact (steady_loadEnvironment h none).bind fun _ => steady_configureDiagnostics h level
  · exact steady_configureDiagnostics h level

end MergeBench.Startup
