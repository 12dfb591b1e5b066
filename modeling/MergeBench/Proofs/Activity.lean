import MergeBench.Machine
import MergeBench.Proofs.Failure

/-!
What an activity comes to. Started on a machine it gives a value or a fault and leaves a machine
behind; an activity is quiet if all it leaves behind is said on standard error. Quiet activities are
calculated with through their answers alone, without the machines in between.
-/

namespace MergeBench

variable {α β : Type}

/-- The value or the fault of an activity, and the machine after it. -/
def runFrom (act : Act α) (m : Machine) : Except Fault α × Machine :=
  (ExceptT.run act).run m

def answer (act : Act α) (m : Machine) : Except Fault α :=
  (runFrom act m).1

theorem answer_eq_iff {act : Act α} {m : Machine} {r : Except Fault α} :
    answer act m = r ↔ ∃ m', runFrom act m = (r, m') :=
  ⟨fun h => ⟨(runFrom act m).2, Prod.ext h rfl⟩, fun ⟨_, h⟩ => by rw [answer, h]⟩

theorem exists_runFrom_of_isOk {act : Act α} {m : Machine} (h : (answer act m).isOk = true) :
    ∃ a, runFrom act m = (.ok a, (runFrom act m).2) := by
  cases hanswer : answer act m with
  | ok a => exact ⟨a, Prod.ext hanswer rfl⟩
  | error f =>
    rw [hanswer] at h
    cases h

theorem runFrom_get (m : Machine) : runFrom get m = (.ok m, m) := rfl

theorem runFrom_bind (act : Act α) (next : α → Act β) (m : Machine) :
    runFrom (act >>= next) m =
      match runFrom act m with
      | (.ok a, m') => runFrom (next a) m'
      | (.error f, m') => (.error f, m') := by
  unfold runFrom ExceptT.run StateT.run
  simp only [bind, ExceptT.bind, ExceptT.mk, StateT.bind, ExceptT.bindCont]
  cases act m with
  | mk r m' => cases r <;> rfl

theorem answer_get_bind (next : Machine → Act β) (m : Machine) :
    answer (get >>= next) m = answer (next m) m := rfl

theorem runFrom_bind_eq_ok_iff {act : Act α} {next : α → Act β} {m m' : Machine} {b : β} :
    runFrom (act >>= next) m = (.ok b, m') ↔
      ∃ a m₁, runFrom act m = (.ok a, m₁) ∧ runFrom (next a) m₁ = (.ok b, m') := by
  rw [runFrom_bind]
  rcases runFrom act m with ⟨f | a, m₁⟩
  · simp
  · exact ⟨fun h => ⟨a, m₁, rfl, h⟩, fun ⟨_, _, heq, h⟩ => by cases heq; exact h⟩

theorem runFrom_bind_eq_error_iff {act : Act α} {next : α → Act β} {m m' : Machine} {f : Fault} :
    runFrom (act >>= next) m = (.error f, m') ↔ runFrom act m = (.error f, m') ∨
      ∃ a m₁, runFrom act m = (.ok a, m₁) ∧ runFrom (next a) m₁ = (.error f, m') := by
  rw [runFrom_bind]
  rcases runFrom act m with ⟨f' | a, m₁⟩
  · simp
  · simp only [Prod.mk.injEq, reduceCtorEq, false_and, false_or]
    exact ⟨fun h => ⟨a, m₁, ⟨rfl, rfl⟩, h⟩, fun ⟨_, _, heq, h⟩ => by cases heq.1; cases heq.2; exact h⟩

theorem runFrom_map (g : α → β) (act : Act α) (m : Machine) :
    runFrom (g <$> act) m = ((answer act m).map g, (runFrom act m).2) := by
  unfold answer runFrom ExceptT.run StateT.run
  simp only [Functor.map, ExceptT.map, ExceptT.mk, bind, StateT.bind]
  cases act m with
  | mk r m' => cases r <;> rfl

theorem runFrom_tryCatch (act : Act α) (handle : Fault → Act α) (m : Machine) :
    runFrom (tryCatch act handle) m =
      match runFrom act m with
      | (.ok a, m') => (.ok a, m')
      | (.error f, m') => runFrom (handle f) m' := by
  unfold runFrom ExceptT.run StateT.run
  simp only [tryCatch, tryCatchThe, MonadExceptOf.tryCatch, ExceptT.tryCatch, ExceptT.mk, bind,
    StateT.bind]
  cases act m with
  | mk r m' => cases r <;> rfl

theorem runFrom_lift {ε : Type} (fault : ε → Fault) (r : Except ε α) (m : Machine) :
    runFrom (lift fault r) m = (r.mapError fault, m) := by
  cases r <;> rfl

theorem runFrom_lift_eq_ok_iff {ε : Type} {fault : ε → Fault} {r : Except ε α} {m m' : Machine}
    {a : α} : runFrom (lift fault r) m = (.ok a, m') ↔ r = .ok a ∧ m' = m := by
  rw [runFrom_lift, Prod.mk.injEq, mapError_eq_ok_iff, eq_comm (a := m)]

theorem answer_lift {ε : Type} (fault : ε → Fault) (r : Except ε α) (m : Machine) :
    answer (lift fault r) m = r.mapError fault := by
  rw [answer, runFrom_lift]

/-! ### Values with a property -/

/-- Every value that the activity gives has the property. -/
def Gives (p : α → Prop) (act : Act α) : Prop :=
  ∀ m a, answer act m = .ok a → p a

theorem gives_pure {p : α → Prop} {a : α} (h : p a) : Gives p (pure a : Act α) := by
  intro m b hb
  cases hb
  exact h

theorem Gives.bind {p : β → Prop} {act : Act α} {next : α → Act β} (h : ∀ a, Gives p (next a)) :
    Gives p (act >>= next) := by
  intro m b hb
  obtain ⟨m', hrun⟩ := answer_eq_iff.mp hb
  obtain ⟨a, m₁, -, hnext⟩ := runFrom_bind_eq_ok_iff.mp hrun
  exact h a m₁ b (answer_eq_iff.mpr ⟨m', hnext⟩)

/-! ### Machines with the same world -/

/-- The machines differ at most in what was said on standard error and in their diagnostics. -/
def Machine.SameWorld (m m' : Machine) : Prop :=
  { m' with errors := m.errors, diagnostics := m.diagnostics } = m

namespace Machine.SameWorld

variable {m₁ m₂ m₃ : Machine}

theorem refl (m : Machine) : m.SameWorld m := rfl

theorem eq (h : m₁.SameWorld m₂) :
    { m₂ with errors := m₁.errors, diagnostics := m₁.diagnostics } = m₁ := h

theorem trans (h : m₁.SameWorld m₂) (h' : m₂.SameWorld m₃) : m₁.SameWorld m₃ := by
  have hm := h.eq
  rw [← h'.eq] at hm
  exact hm

theorem files (h : m₁.SameWorld m₂) : m₂.files = m₁.files := by
  rw [← h.eq]

theorem environment (h : m₁.SameWorld m₂) : m₂.environment = m₁.environment := by
  rw [← h.eq]

theorem directory (h : m₁.SameWorld m₂) : m₂.directory = m₁.directory := by
  rw [← h.eq]

theorem output (h : m₁.SameWorld m₂) : m₂.output = m₁.output := by
  rw [← h.eq]

end Machine.SameWorld

theorem Machine.sameWorld_report (m : Machine) (r : Record) : m.SameWorld (m.report r) := by
  unfold Machine.report
  cases m.diagnostics.shown r <;> rfl

/-- A machine that works in `/work`, with these files there and these variables. -/
def Machine.inWork (files : List (String × Bytes)) (bindings : List (String × String)) :
    Machine where
  files := ⟨(["work"], .directory) ::
    files.map fun (name, content) => (["work", name], .file content false)⟩
  environment := ⟨bindings, "builder", []⟩
  directory := ["work"]
  output := []
  errors := []
  diagnostics := .initial
  clock := 0
  executable := "pr_bench"
  arguments := []

/-! ### Quiet activities -/

/-- The activity changes nothing in the world, and its answer depends on nothing else. -/
structure Quiet (act : Act α) : Prop where
  sameWorld (m : Machine) : m.SameWorld (runFrom act m).2
  answer_eq {m m' : Machine} : m.SameWorld m' → answer act m' = answer act m

theorem Quiet.sameWorld_of_runFrom {act : Act α} (h : Quiet act) {m m' : Machine} {r : Except Fault α}
    (hrun : runFrom act m = (r, m')) : m.SameWorld m' := by
  have hm := h.sameWorld m
  rwa [hrun] at hm

theorem quiet_pure (a : α) : Quiet (pure a : Act α) :=
  ⟨fun m => .refl m, fun _ => rfl⟩

theorem quiet_throw (f : Fault) : Quiet (throw f : Act α) :=
  ⟨fun m => .refl m, fun _ => rfl⟩

theorem quiet_lift {ε : Type} (fault : ε → Fault) (r : Except ε α) : Quiet (lift fault r) := by
  cases r with
  | ok a => exact quiet_pure a
  | error e => exact quiet_throw (fault e)

theorem quiet_report (level : Level) (source : Source) (text : String) :
    Quiet (report level source text) :=
  ⟨fun m => m.sameWorld_report _, fun _ => rfl⟩

theorem quiet_printErrorLine (line : String) : Quiet (printErrorLine line) :=
  ⟨fun _ => rfl, fun _ => rfl⟩

/-- The answer of a quiet activity decides how to go on, as if nothing had been done. -/
theorem Quiet.answer_bind {act : Act α} {next : α → Act β} (h : Quiet act)
    (hnext : ∀ a, Quiet (next a)) (m : Machine) :
    answer (act >>= next) m = (answer act m).bind fun a => answer (next a) m := by
  have hm := h.sameWorld m
  unfold answer
  rw [runFrom_bind]
  cases hrun : runFrom act m with
  | mk r m' =>
    rw [hrun] at hm
    cases r with
    | ok a => exact (hnext a).answer_eq hm
    | error f => rfl

theorem Quiet.bind {act : Act α} {next : α → Act β} (h : Quiet act) (hnext : ∀ a, Quiet (next a)) :
    Quiet (act >>= next) := by
  constructor
  · intro m
    have hm := h.sameWorld m
    rw [runFrom_bind]
    cases hrun : runFrom act m with
    | mk r m' =>
      rw [hrun] at hm
      cases r with
      | ok a => exact hm.trans ((hnext a).sameWorld m')
      | error f => exact hm
  · intro m m' hsame
    rw [h.answer_bind hnext, h.answer_bind hnext, h.answer_eq hsame]
    cases answer act m with
    | ok a => exact (hnext a).answer_eq hsame
    | error f => rfl

theorem quiet_get_bind {next : Machine → Act α} (hnext : ∀ m, Quiet (next m))
    (hsame : ∀ m m' : Machine, m.SameWorld m' → next m' = next m) : Quiet (get >>= next) := by
  constructor
  · intro m
    exact (hnext m).sameWorld m
  · intro m m' h
    change answer (next m') m' = answer (next m) m
    rw [hsame m m' h]
    exact (hnext m).answer_eq h

/-! ### Looking at files -/

theorem quiet_onPath (path : String) (r : Except SystemError α) : Quiet (onPath path r) :=
  quiet_lift _ r

theorem quiet_checkPath (path : String) : Quiet (checkPath path) := by
  unfold checkPath
  split
  · exact quiet_throw _
  · exact quiet_pure ()

theorem runFrom_checkPath_eq_ok {text : String} {m m' : Machine}
    (h : runFrom (checkPath text) m = (.ok (), m')) :
    hasNull text = false ∧ m' = m := by
  unfold checkPath at h
  split at h
  · cases h
  next hnull =>
    cases h
    exact ⟨by simpa using hnull, rfl⟩

theorem quiet_entryAt (path : String) : Quiet (entryAt path) := by
  refine quiet_get_bind (fun m => ?_) fun m m' h => by rw [h.files, h.directory]
  split
  · exact quiet_pure none
  · exact quiet_onPath path _

theorem answer_entryAt (path : String) (m : Machine) :
    answer (entryAt path) m = if hasNull path then .ok none
      else (m.files.entryAt m.directory path).mapError fun cause =>
        .file ⟨cause, some path, none⟩ := by
  change answer (if hasNull path then pure none
    else onPath path (m.files.entryAt m.directory path)) m = _
  split
  · rfl
  · exact answer_lift _ _ m

theorem quiet_pathExists (path : Path) : Quiet (pathExists path) :=
  (quiet_entryAt path.text).bind fun _ => quiet_pure _

theorem quiet_isFile (path : Path) : Quiet (isFile path) := by
  refine (quiet_entryAt path.text).bind fun entry => ?_
  split <;> exact quiet_pure _

theorem quiet_expandHome (path : Path) : Quiet (expandHome path) :=
  quiet_get_bind (fun _ => quiet_lift _ _) fun m m' h => by rw [h.environment]

theorem quiet_currentDirectory : Quiet currentDirectory := by
  refine quiet_get_bind (fun m => ?_) fun m m' h => by rw [h.files, h.directory]
  split
  · exact quiet_pure _
  · exact quiet_throw _

theorem quiet_resolve (path : Path) : Quiet (resolve path) := by
  refine (quiet_checkPath path.text).bind fun _ => ?_
  dsimp only
  split
  case' isTrue => refine (quiet_pure []).bind fun here => ?_
  case' isFalse => refine quiet_currentDirectory.bind fun here => ?_
  all_goals
    refine quiet_get_bind (fun m => ?_) fun m m' h => by rw [h.files]
    split
    · exact quiet_throw _
    · exact quiet_pure _

/-- A path that leads somewhere, or to a free name, resolves to its location. -/
theorem answer_resolve {path : Path} {m : Machine} {location : Location} {spot : FileSystem.Spot}
    (hnull : hasNull path.text = false) (habsolute : path.isAbsolute = true)
    (hlocation : m.files.realLocation [] path.text = location)
    (hspot : m.files.find true [] location.text = .ok spot) :
    answer (resolve path) m = .ok location.path := by
  unfold resolve checkPath
  simp only [hnull, habsolute, Bool.false_eq_true, ↓reduceIte, pure_bind]
  rw [answer, runFrom_bind, runFrom_get]
  dsimp only
  rw [hlocation, hspot]
  rfl

theorem quiet_readText (path : Path) : Quiet (readText path) := by
  refine quiet_get_bind (fun m => ?_) fun m m' h => by rw [h.files, h.directory]
  refine (quiet_checkPath path.text).bind fun _ => (quiet_onPath path.text _).bind fun bytes => ?_
  exact quiet_lift _ _

theorem answer_readText {path : Path} (hnull : hasNull path.text = false) (m : Machine) :
    answer (readText path) m =
      ((m.files.readFile m.directory path.text).mapError fun cause =>
        .file ⟨cause, some path.text, none⟩).bind fun bytes =>
          (Text.decodeText bytes).mapError .encoding := by
  change answer (checkPath path.text >>= fun _ =>
    onPath path.text (m.files.readFile m.directory path.text) >>= fun bytes =>
    lift .encoding (Text.decodeText bytes)) m = _
  rw [checkPath, hnull, onPath]
  change answer (lift _ _ >>= _) m = _
  rw [(quiet_lift _ _).answer_bind fun _ => quiet_lift _ _, answer_lift]
  simp only [answer_lift]

end MergeBench
