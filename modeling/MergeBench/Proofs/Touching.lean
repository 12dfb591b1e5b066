import MergeBench.Proofs.FileSystem.Touch
import MergeBench.Proofs.Steady

/-!
What activities touch. An activity is touching for some paths if, however it ends, it loses no entry and
touches files only on behalf of these paths. Activities are put together as steady ones are; making
directories and opening a file for output are the two that touch anything.
-/

namespace MergeBench

variable {α β : Type} {m m' m₁ m₂ m₃ : Machine} {paths paths' : Path → Prop} {p q : Path}

namespace Machine

structure Touches (paths : Path → Prop) (m m' : Machine) : Prop where
  setting : m'.setting = m.setting
  files : m.files.Touches m.directory paths m'.files

theorem Touches.directory (h : m.Touches paths m') : m'.directory = m.directory :=
  congrArg (fun setting => setting.2.1) h.setting

theorem Touches.environment (h : m.Touches paths m') : m'.environment = m.environment :=
  congrArg Prod.fst h.setting

theorem Touches.of_site (h : m'.site = m.site) : m.Touches paths m' := by
  obtain ⟨hsetting, hfiles⟩ := Prod.mk.inj h
  exact ⟨hsetting, hfiles ▸ .refl ..⟩

theorem Touches.of_unsaid (h : m'.unsaid = m.unsaid) : m.Touches paths m' :=
  .of_site (site_of_unsaid h)

theorem Touches.refl (m : Machine) : m.Touches paths m :=
  .of_site rfl

theorem Touches.trans (h : m₁.Touches paths m₂) (h' : m₂.Touches paths m₃) :
    m₁.Touches paths m₃ :=
  ⟨h'.setting.trans h.setting, h.files.trans (h.directory ▸ h'.files)⟩

theorem Touches.mono (h : m.Touches paths m') (hpaths : ∀ p, paths p → paths' p) :
    m.Touches paths' m' :=
  ⟨h.setting, h.files.mono hpaths⟩

/-- What touched nothing can be taken back. -/
theorem Touches.symm (h : m.Touches paths m') (hnone : ∀ p, ¬paths p) : m'.Touches paths m :=
  ⟨h.setting.symm, .of_get?_eq fun l => (h.files.get?_eq hnone l).symm⟩

def HasDirectory (m : Machine) (p : Path) : Prop :=
  hasNull p.text = false ∧ ∃ l, m.files.LeadsTo m.directory p l .directory

theorem HasDirectory.of_grows (h : m.HasDirectory p) (hfiles : m.files.Grows m'.files)
    (hdirectory : m'.directory = m.directory) : m'.HasDirectory p := by
  obtain ⟨hnull, l, hl⟩ := h
  exact ⟨hnull, l, hdirectory ▸ hfiles.leadsTo_directory hl⟩

theorem HasDirectory.of_touches (h : m.HasDirectory p) (htouches : m.Touches paths m') :
    m'.HasDirectory p :=
  h.of_grows htouches.files.grows htouches.directory

def HasFile (m : Machine) (p : Path) : Prop :=
  hasNull p.text = false ∧
    ∃ l content executable, m.files.LeadsTo m.directory p l (.file content executable)

theorem HasFile.of_touches (h : m.HasFile p) (htouches : m.Touches paths m') : m'.HasFile p := by
  obtain ⟨hnull, l, content, executable, hl⟩ := h
  obtain ⟨content', executable', hl'⟩ := htouches.files.grows.leadsTo_file hl
  exact ⟨hnull, l, content', executable', htouches.directory ▸ hl'⟩

end Machine

/-! ### How activities are put together -/

def TouchingAt (paths : Path → Prop) (m : Machine) (act : Act α) : Prop :=
  m.Touches paths (runFrom act m).2

def Touching (paths : Path → Prop) (act : Act α) : Prop :=
  ∀ m, TouchingAt paths m act

theorem TouchingAt.bind {act : Act α} {next : α → Act β} (h : TouchingAt paths m act)
    (hnext : ∀ a m', runFrom act m = (.ok a, m') → TouchingAt paths m' (next a)) :
    TouchingAt paths m (act >>= next) := by
  unfold TouchingAt at h ⊢
  rw [runFrom_bind]
  rcases hrun : runFrom act m with ⟨f | a, m'⟩ <;> rw [hrun] at h
  · exact h
  · exact h.trans (hnext a m' hrun)

theorem Touching.bind {act : Act α} {next : α → Act β} (h : Touching paths act)
    (hnext : ∀ a, Touching paths (next a)) : Touching paths (act >>= next) :=
  fun m => (h m).bind fun a m' _ => hnext a m'

theorem Steady.touching {act : Act α} (h : Steady Machine.site act) : Touching paths act :=
  fun m => .of_site (h m).view_eq

theorem touching_pure (a : α) : Touching paths (pure a : Act α) :=
  (steady_pure a).touching

theorem touching_get_bind {next : Machine → Act α} (h : ∀ m, TouchingAt paths m (next m)) :
    Touching paths (get >>= next) :=
  h

theorem TouchingAt.set_bind {next : Unit → Act α} (hset : m.Touches paths m')
    (h : TouchingAt paths m' (next ())) : TouchingAt paths m (set m' >>= next) :=
  hset.trans h

theorem TouchingAt.touches {act : Act α} {r : Except Fault α} (h : TouchingAt paths m act)
    (hrun : runFrom act m = (r, m')) : m.Touches paths m' := by
  unfold TouchingAt at h
  rwa [hrun] at h

/-! ### Directories -/

theorem answer_isDirectory_eq_true_iff : answer (isDirectory p) m = .ok true ↔ m.HasDirectory p := by
  have hanswer : answer (isDirectory p) m =
      (answer (entryAt p.text) m).map (· == some .directory) := by
    rw [isDirectory, (quiet_entryAt p.text).answer_bind fun entry => by split <;> exact quiet_pure _]
    rcases answer (entryAt p.text) m with f | _ | _ | _ | _ <;> rfl
  rw [hanswer, answer_entryAt, Machine.HasDirectory]
  cases hasNull p.text with
  | true => simp [Except.map]
  | false =>
    simp only [Bool.false_eq_true, ↓reduceIte, true_and, FileSystem.LeadsTo, FileSystem.entryAt]
    rcases m.files.find true m.directory p.text with e | ⟨l, _ | _ | _ | _⟩
    · cases e <;> simp [Except.map]
    all_goals simp [Except.map]

theorem touching_makeDirectory (h : q.Begins p) : Touching (· = p) (makeDirectory q) := by
  refine (steady_checkPath q.text).touching.bind fun _ => touching_get_bind fun m => ?_
  split
  next files hfiles =>
    exact .set_bind ⟨rfl, FileSystem.touches_makeDirectory hfiles h⟩ (touching_pure true _)
  · exact touching_pure false m
  · refine (steady_isDirectory q).touching.bind (fun there => ?_) m
    split
    · exact touching_pure true
    · exact (steady_throw (by nofun)).touching

theorem touching_makeDirectories (fuel : Nat) (h : q.Begins p) :
    Touching (· = p) (makeDirectories fuel q) := by
  induction fuel generalizing q with
  | zero => exact (steady_throw (by nofun)).touching
  | succ fuel ih =>
    unfold makeDirectories
    refine (touching_makeDirectory h).bind fun made => ?_
    split
    · have habove : Touching (· = p) (do
          makeDirectories fuel q.parent
          if !(← makeDirectory q) then throw (.file ⟨.noEntry, some q.text, none⟩) : Act Unit) := by
        refine (ih ((Path.parent_begins q).trans h)).bind fun _ =>
          (touching_makeDirectory h).bind fun made => ?_
        split
        · exact (steady_throw (by nofun)).touching
        · exact touching_pure ()
      dsimp only
      split
      · exact (steady_throw (by nofun)).touching.bind fun _ => habove
      · exact habove
    · exact touching_pure ()

theorem touching_ensureDirectory (h : q.Begins p) : Touching (· = p) (ensureDirectory q) :=
  touching_makeDirectories _ h

/-! ### Files for output -/

namespace Command

theorem touching_openArtifact (path : Path) : Touching (· = path) (openArtifact path) := by
  refine (touching_ensureDirectory path.parent_begins).bind fun _ =>
    (steady_checkPath path.text).touching.bind fun _ => touching_get_bind fun m => ?_
  refine TouchingAt.bind ((steady_onPath path.text _).touching m) fun (l, files) m' hopen => ?_
  obtain ⟨hfiles, rfl⟩ := runFrom_lift_eq_ok_iff.mp hopen
  exact .set_bind ⟨rfl, (FileSystem.touches_openFile hfiles).1⟩ (touching_pure l _)

end Command

end MergeBench
