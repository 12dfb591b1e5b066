import MergeBench.Proofs.FileSystem.Alike
import MergeBench.Proofs.Steady

/-!
Activities to which a file makes no difference. With other files in place of its own such an activity
answers the same and leaves the same behind, and it changes no file. Looking at a path is indifferent to
any file that the path does not lead to, and resolving a path is indifferent to all files.
-/

namespace MergeBench

variable {α β : Type} {m m₁ : Machine} {fs' : FileSystem} {l : Location}

def Machine.withFiles (m : Machine) (files : FileSystem) : Machine :=
  { m with files := files }

/-- With these files the activity does the same as without, and it changes none of either. -/
structure SameWith (fs' : FileSystem) (m : Machine) (act : Act α) : Prop where
  runFrom_eq : runFrom act (m.withFiles fs') = (answer act m, (runFrom act m).2.withFiles fs')
  files_eq : (runFrom act m).2.files = m.files

namespace SameWith

theorem answer_eq {act : Act α} (h : SameWith fs' m act) :
    answer act (m.withFiles fs') = answer act m := by
  rw [answer, h.runFrom_eq]

theorem runFrom_of {act : Act α} {r : Except Fault α} (h : SameWith fs' m act)
    (hrun : runFrom act m = (r, m₁)) : runFrom act (m.withFiles fs') = (r, m₁.withFiles fs') := by
  rw [h.runFrom_eq, answer, hrun]

theorem files_of {act : Act α} {r : Except Fault α} (h : SameWith fs' m act)
    (hrun : runFrom act m = (r, m₁)) : m₁.files = m.files := by
  have hfiles := h.files_eq
  rwa [hrun] at hfiles

theorem bind {act : Act α} {next : α → Act β} (h : SameWith fs' m act)
    (hnext : ∀ a m₁, runFrom act m = (.ok a, m₁) → SameWith fs' m₁ (next a)) :
    SameWith fs' m (act >>= next) := by
  have hbind := runFrom_bind act next m
  have hbind' := runFrom_bind act next (m.withFiles fs')
  rcases hrun : runFrom act m with ⟨f | a, m₁⟩
  all_goals
    rw [hrun] at hbind
    rw [h.runFrom_of hrun] at hbind'
    dsimp only at hbind hbind'
  · exact ⟨by rw [hbind', answer, hbind], by rw [hbind]; exact h.files_of hrun⟩
  · obtain ⟨hrun', hfiles'⟩ := hnext a m₁ hrun
    refine ⟨?_, by rw [hbind, hfiles', h.files_of hrun]⟩
    rw [hbind', hrun', answer, answer, hbind]

end SameWith

theorem sameWith_pure (a : α) : SameWith fs' m (pure a : Act α) :=
  ⟨rfl, rfl⟩

theorem sameWith_throw (f : Fault) : SameWith fs' m (throw f : Act α) :=
  ⟨rfl, rfl⟩

theorem sameWith_lift {ε : Type} (fault : ε → Fault) (r : Except ε α) :
    SameWith fs' m (lift fault r) := by
  cases r with
  | ok a => exact sameWith_pure a
  | error e => exact sameWith_throw (fault e)

theorem SameWith.get_bind {next : Machine → Act α} (h : SameWith fs' m (next m))
    (hnext : next (m.withFiles fs') = next m) : SameWith fs' m (get >>= next) := by
  obtain ⟨hrun, hfiles⟩ := h
  refine ⟨?_, hfiles⟩
  change runFrom (next (m.withFiles fs')) (m.withFiles fs') = _
  rw [hnext]
  exact hrun

theorem sameWith_modify {change : Machine → Machine}
    (h : change (m.withFiles fs') = (change m).withFiles fs') (hfiles : (change m).files = m.files) :
    SameWith fs' m (modify change : Act Unit) :=
  ⟨congrArg (Prod.mk (Except.ok ())) h, hfiles⟩

theorem sameWith_report (level : Level) (source : Source) (text : String) :
    SameWith fs' m (report level source text) := by
  refine sameWith_modify ?_ (m.sameWorld_report _).files
  unfold Machine.report
  dsimp only [Machine.withFiles]
  cases m.diagnostics.shown ⟨level, source, text⟩ <;> rfl

theorem SameWith.guarded {c : Prop} [Decidable c] {f : Fault} {next : PUnit → Act α}
    (h : SameWith fs' m (next ())) : SameWith fs' m (if c then throw f >>= next else next ()) := by
  split
  · exact (sameWith_throw f).bind fun _ _ h => by cases h
  · exact h

/-! ### Looking at files -/

theorem sameWith_checkPath (path : String) : SameWith fs' m (checkPath path) := by
  unfold checkPath
  split
  · exact sameWith_throw _
  · exact sameWith_pure ()

theorem sameWith_expandHome (path : Path) : SameWith fs' m (expandHome path) :=
  .get_bind (sameWith_lift _ _) rfl

theorem sameWith_entryAt {path : String} (hfs : FileSystem.AlikeBut l m.files fs')
    (hpath : ¬m.files.ComesTo m.directory path l) : SameWith fs' m (entryAt path) := by
  refine SameWith.get_bind ?_ ?_
  · split
    · exact sameWith_pure none
    · exact sameWith_lift _ _
  · dsimp only [Machine.withFiles]
    rw [FileSystem.entryAt_eq_of_alikeBut hfs hpath]

theorem sameWith_pathExists {path : Path} (hfs : FileSystem.AlikeBut l m.files fs')
    (hpath : ¬m.files.ComesTo m.directory path.text l) : SameWith fs' m (pathExists path) :=
  (sameWith_entryAt hfs hpath).bind fun _ _ _ => sameWith_pure _

theorem sameWith_isFile {path : Path} (hfs : FileSystem.AlikeBut l m.files fs')
    (hpath : ¬m.files.ComesTo m.directory path.text l) : SameWith fs' m (isFile path) := by
  refine (sameWith_entryAt hfs hpath).bind fun entry _ _ => ?_
  split <;> exact sameWith_pure _

/-- A text is read of a file that is known to be there. -/
theorem sameWith_readText {path : Path} {spot : FileSystem.Spot}
    (hfs : FileSystem.AlikeBut l m.files fs') (hpath : ¬m.files.ComesTo m.directory path.text l)
    (hfind : m.files.find true m.directory path.text = .ok spot) : SameWith fs' m (readText path) := by
  refine SameWith.get_bind ((sameWith_checkPath _).bind fun _ _ _ => (sameWith_lift _ _).bind
    fun _ _ _ => sameWith_lift _ _) ?_
  dsimp only [Machine.withFiles]
  unfold FileSystem.readFile
  rw [hfind, FileSystem.find_eq_of_alikeBut hfs hfind hpath]

theorem exists_find_of_entryAt {path : String} {e : Entry}
    (h : answer (entryAt path) m = .ok (some e)) :
    ∃ spot, m.files.find true m.directory path = .ok spot := by
  rw [answer_entryAt] at h
  split at h
  · cases h
  · unfold FileSystem.entryAt at h
    cases hfind : m.files.find true m.directory path with
    | ok spot => exact ⟨spot, rfl⟩
    | error cause =>
      rw [hfind] at h
      cases cause <;> cases h

theorem exists_find_of_bind_entryAt {path : String} {next : Option Entry → Act Bool}
    (hnext : next none = pure false) (h : answer (entryAt path >>= next) m = .ok true) :
    ∃ spot, m.files.find true m.directory path = .ok spot := by
  obtain ⟨m', hrun⟩ := answer_eq_iff.mp h
  obtain ⟨entry, m₁, hentry, hrest⟩ := runFrom_bind_eq_ok_iff.mp hrun
  cases entry with
  | none =>
    rw [hnext] at hrest
    cases hrest
  | some e => exact exists_find_of_entryAt (answer_eq_iff.mpr ⟨m₁, hentry⟩)

theorem exists_find_of_isFile {path : Path} (h : answer (isFile path) m = .ok true) :
    ∃ spot, m.files.find true m.directory path.text = .ok spot :=
  exists_find_of_bind_entryAt rfl h

theorem exists_find_of_pathExists {path : Path} (h : answer (pathExists path) m = .ok true) :
    ∃ spot, m.files.find true m.directory path.text = .ok spot :=
  exists_find_of_bind_entryAt rfl h

theorem sameWith_currentDirectory (hfs : FileSystem.AlikeBut l m.files fs') :
    SameWith fs' m currentDirectory := by
  refine SameWith.get_bind ?_ ?_
  · split
    · exact sameWith_pure _
    · exact sameWith_throw _
  · dsimp only [Machine.withFiles]
    rw [hfs.hasDirectory_eq]

/-- The end of resolving a path, in a directory that is there. -/
def resolveIn (path : Path) (here : Location) : Act Path := do
  let m ← get
  let found := m.files.realLocation here path.text
  match m.files.find true [] found.text with
  | .error .tooManyLinks => throw (.linkLoop found.text)
  | _ => return found.path

theorem resolve_eq (path : Path) :
    resolve path = checkPath path.text >>= fun _ =>
      (if path.isAbsolute then pure [] else currentDirectory) >>= resolveIn path := by
  unfold resolve
  split <;> rfl

theorem sameWith_resolveIn (hfs : FileSystem.AlikeBut l m.files fs') (path : Path)
    (here : Location) : SameWith fs' m (resolveIn path here) := by
  refine SameWith.get_bind ?_ ?_
  · dsimp only
    split
    · exact sameWith_throw _
    · exact sameWith_pure _
  · dsimp only [Machine.withFiles]
    rw [FileSystem.realLocation_eq_of_sameLinks hfs.sameLinks]
    have hiff := FileSystem.find_eq_tooManyLinks_iff hfs true []
      (m.files.realLocation here path.text).text
    by_cases hlinks : m.files.find true [] (m.files.realLocation here path.text).text =
        .error .tooManyLinks
    · rw [hlinks, hiff.mpr hlinks]
    · have hlinks' := mt hiff.mp hlinks
      split
      next heq => exact absurd heq hlinks'
      next => rfl

theorem steady_hereOf (path : Path) :
    Steady id (if path.isAbsolute then pure [] else currentDirectory) := by
  split
  · exact steady_pure []
  · exact steady_currentDirectory

theorem sameWith_resolve (hfs : FileSystem.AlikeBut l m.files fs') (path : Path) :
    SameWith fs' m (resolve path) := by
  rw [resolve_eq]
  refine (sameWith_checkPath path.text).bind fun _ m₁ hcheck => ?_
  obtain rfl := (steady_checkPath path.text).eq_of_runFrom hcheck
  refine SameWith.bind ?_ fun here m₂ hhere => ?_
  · split
    · exact sameWith_pure []
    · exact sameWith_currentDirectory hfs
  · obtain rfl := (steady_hereOf path).eq_of_runFrom hhere
    exact sameWith_resolveIn hfs path here

theorem sameWith_realPath (hfs : FileSystem.AlikeBut l m.files fs') (path : Path) :
    SameWith fs' m (expandHome path >>= resolve) := by
  refine (sameWith_expandHome path).bind fun expanded m₁ hexpand => ?_
  obtain rfl := (steady_expandHome path).eq_of_runFrom hexpand
  exact sameWith_resolve hfs expanded

theorem sameWith_findRoot (hfs : FileSystem.AlikeBut l m.files fs') (vars : Settings.Variables) :
    SameWith fs' m (Repository.findRoot vars) := by
  unfold Repository.findRoot
  split
  · exact sameWith_realPath hfs _
  · refine (sameWith_currentDirectory hfs).bind fun here m₁ hhere => ?_
    obtain rfl := steady_currentDirectory.eq_of_runFrom hhere
    exact sameWith_resolve hfs here.path

/-! ### What decides where a path leads -/

/-- After an activity that changes nothing its answer decides how to go on. -/
theorem Steady.answer_bind {act : Act α} (h : Steady id act) (next : α → Act β) (m : Machine) :
    answer (act >>= next) m = (answer act m).bind fun a => answer (next a) m := by
  unfold answer
  rw [runFrom_bind]
  rcases hrun : runFrom act m with ⟨f | a, m'⟩
  all_goals
    obtain rfl := h.eq_of_runFrom hrun
    rfl

theorem answer_entryAt_congr (hfiles : m₁.files = m.files) (hdirectory : m₁.directory = m.directory)
    (path : String) : answer (entryAt path) m₁ = answer (entryAt path) m := by
  rw [answer_entryAt, answer_entryAt, hfiles, hdirectory]

theorem answer_pathExists_congr (hfiles : m₁.files = m.files)
    (hdirectory : m₁.directory = m.directory) (path : Path) :
    answer (pathExists path) m₁ = answer (pathExists path) m := by
  unfold pathExists
  simp only [(steady_entryAt _).answer_bind, answer_entryAt_congr hfiles hdirectory]
  rfl

theorem answer_isFile_congr (hfiles : m₁.files = m.files) (hdirectory : m₁.directory = m.directory)
    (path : Path) : answer (isFile path) m₁ = answer (isFile path) m := by
  unfold isFile
  simp only [(steady_entryAt _).answer_bind, answer_entryAt_congr hfiles hdirectory]
  congr 1
  funext entry
  split <;> rfl

theorem answer_readText_congr (hfiles : m₁.files = m.files)
    (hdirectory : m₁.directory = m.directory) (path : Path) :
    answer (readText path) m₁ = answer (readText path) m := by
  cases hnull : hasNull path.text with
  | false => rw [answer_readText hnull, answer_readText hnull, hfiles, hdirectory]
  | true =>
    unfold readText checkPath
    rw [hnull]
    rfl

theorem answer_currentDirectory_congr (hfiles : m₁.files = m.files)
    (hdirectory : m₁.directory = m.directory) :
    answer currentDirectory m₁ = answer currentDirectory m := by
  unfold currentDirectory
  rw [answer_get_bind, answer_get_bind, hfiles, hdirectory]
  split <;> rfl

theorem answer_resolve_congr (hfiles : m₁.files = m.files) (hdirectory : m₁.directory = m.directory)
    (path : Path) : answer (resolve path) m₁ = answer (resolve path) m := by
  have hcheck : answer (checkPath path.text) m₁ = answer (checkPath path.text) m := by
    unfold checkPath
    split <;> rfl
  have hin (here : Location) : answer (resolveIn path here) m₁ = answer (resolveIn path here) m := by
    unfold resolveIn
    rw [answer_get_bind, answer_get_bind, hfiles]
    dsimp only
    split <;> rfl
  rw [resolve_eq, (steady_checkPath _).answer_bind, (steady_checkPath _).answer_bind, hcheck]
  simp only [(steady_hereOf path).answer_bind, hin]
  split
  · rfl
  · rw [answer_currentDirectory_congr hfiles hdirectory]

theorem answer_realPath_congr {path : Path} (hfiles : m₁.files = m.files)
    (hdirectory : m₁.directory = m.directory)
    (hexpand : path.expandHome m₁.environment = path.expandHome m.environment) :
    answer (expandHome path >>= resolve) m₁ = answer (expandHome path >>= resolve) m := by
  have hhome : answer (expandHome path) m₁ = answer (expandHome path) m := by
    unfold expandHome
    rw [answer_get_bind, answer_get_bind, answer_lift, answer_lift, hexpand]
  simp only [(steady_expandHome path).answer_bind, hhome, answer_resolve_congr hfiles hdirectory]

theorem answer_findRoot_congr {vars vars' : Settings.Variables} (hfiles : m₁.files = m.files)
    (hdirectory : m₁.directory = m.directory)
    (hexpand : ∀ path : Path, path.expandHome m₁.environment = path.expandHome m.environment)
    (hvars : vars' Repository.rootVariable = vars Repository.rootVariable) :
    answer (Repository.findRoot vars') m₁ = answer (Repository.findRoot vars) m := by
  unfold Repository.findRoot Settings.nonempty?
  rw [hvars]
  split
  · exact answer_realPath_congr hfiles hdirectory (hexpand _)
  · simp only [steady_currentDirectory.answer_bind, answer_currentDirectory_congr hfiles hdirectory,
      answer_resolve_congr hfiles hdirectory]

end MergeBench
