import MergeBench.Proofs.JsonFile
import MergeBench.Proofs.Touching

/-!
What writing a file leaves behind. Directories that were missing above it are there, the file stands
where its path leads, and nothing else has changed; if the write fails there are only the directories.
Where the path leads to a link that link is lost, for the file takes its place.
-/

namespace MergeBench

variable {m m' : Machine} {path temporary : Path} {l : Location} {content : Bytes}

namespace Machine

/-- Between the two machines only directories above the path were made. -/
structure MakesDirectories (path : Path) (m m' : Machine) : Prop where
  touches : m.Touches (· = path) m'
  leaf?_eq : m'.files.leaf? = m.files.leaf?

/-- Between the two machines directories above the path were made, and then a file with this content
was placed there. -/
def Deposits (path : Path) (content : Bytes) (m m' : Machine) : Prop :=
  ∃ m₁ k e, m.MakesDirectories path m₁ ∧ JsonFile.Places path content k e m₁ m'

theorem MakesDirectories.of_sameWorld {m₁ : Machine} (hbefore : m.SameWorld m₁)
    (h : m₁.MakesDirectories path m') : m.MakesDirectories path m' :=
  ⟨.trans (.of_site hbefore.site) h.touches, by rw [h.leaf?_eq, hbefore.files]⟩

theorem Deposits.of_sameWorld {m₁ m₂ : Machine} (hbefore : m.SameWorld m₁)
    (h : m₁.Deposits path content m₂) (hafter : m₂.SameWorld m') : m.Deposits path content m' := by
  obtain ⟨m₃, k, e, hmakes, hplaces⟩ := h
  have hsetting : m'.setting = m₂.setting := congrArg Prod.fst hafter.site
  refine ⟨m₃, k, e, .of_sameWorld hbefore hmakes,
    { hplaces with placed := ?_, rest := ?_, setting := hsetting.trans hplaces.setting }⟩
  · rw [hafter.files]
    exact hplaces.placed
  · rw [hafter.files]
    exact hplaces.rest

/-- What was exchanged is the link that the path led to. -/
theorem Deposits.link_of_exchanges (h : m.Deposits path content m') (hl : m.files.Exchanges m'.files l) :
    ∃ m₁ target, m.MakesDirectories path m₁ ∧
      m₁.files.find false m₁.directory path.text = .ok ⟨l, some (.link target)⟩ := by
  obtain ⟨m₁, k, e, hmakes, hplaces⟩ := h
  obtain ⟨target, content', executable, hlink, hfile⟩ := hl
  have hkept : m₁.files.get? l = some (.link target) := hmakes.touches.files.grows.get?_link hlink
  have hlk : l = k := by
    refine Decidable.byContradiction fun hne => ?_
    rw [hplaces.rest l hne, hkept] at hfile
    cases hfile
  obtain ⟨-, hentry⟩ := FileSystem.find_entry_eq hplaces.found hplaces.not_directory
  rw [← hlk] at hentry
  obtain rfl : e = some (.link target) := hentry.symm.trans hkept
  exact ⟨m₁, target, hmakes, hlk ▸ hplaces.found⟩

theorem Deposits.persists (h : m.Deposits path content m') : m.files.Persists m'.files := by
  obtain ⟨m₁, k, e, hmakes, hplaces⟩ := h
  intro l d hd
  obtain ⟨d', hd', hkeeps⟩ := hmakes.touches.files.grows l d hd
  by_cases hlk : l = k
  · subst hlk
    obtain ⟨-, hentry⟩ := FileSystem.find_entry_eq hplaces.found hplaces.not_directory
    have hnot : d' ≠ .directory := by
      rintro rfl
      exact hplaces.not_directory (hentry.symm.trans hd')
    cases hkeeps with
    | rewritten => exact .inl ⟨_, hplaces.placed, .rewritten ..⟩
    | same =>
      cases d with
      | directory => exact absurd rfl hnot
      | file => exact .inl ⟨_, hplaces.placed, .rewritten ..⟩
      | link target => exact .inr ⟨target, _, _, hd, hplaces.placed⟩
  · exact .inl ⟨d', (hplaces.rest l hlk).trans hd', hkeeps⟩

theorem Deposits.setting (h : m.Deposits path content m') : m'.setting = m.setting := by
  obtain ⟨m₁, k, e, hmakes, hplaces⟩ := h
  exact hplaces.setting.trans hmakes.touches.setting

end Machine

namespace JsonFile

variable {data : Value} {f : Fault}

theorem makesDirectories_of_ensureDirectory {p : Path} {r : Except Fault Unit}
    (hbegins : path.Begins p) (h : runFrom (ensureDirectory path) m = (r, m')) :
    m.MakesDirectories p m' :=
  ⟨(touching_ensureDirectory hbegins m).touches h,
    (steady_ensureDirectory_leaf? path).view_eq_of_runFrom h⟩

theorem deposits_of_write (h : runFrom (write path data) m = (.ok (), m')) :
    ∃ text, Json.document data = .ok text ∧ m.Deposits path (Text.encode text) m' := by
  obtain ⟨-, m₁, text, k, e, hensure, hdocument, hplaces⟩ := places_of_write h
  exact ⟨text, hdocument, m₁, k, e,
    makesDirectories_of_ensureDirectory path.parent_begins hensure, hplaces⟩

/-! ### Failing writes -/

theorem eq_of_lift_error {ε α : Type} {fault : ε → Fault} {r : Except ε α}
    (h : runFrom (lift fault r) m = (.error f, m')) : m' = m := by
  rw [runFrom_lift] at h
  exact (Prod.mk.inj h).2.symm

theorem eq_of_createTemporary_error {directory : Path}
    (h : runFrom (createTemporary directory) m = (.error f, m')) : m' = m := by
  unfold createTemporary at h
  rw [runFrom_bind, runFrom_get] at h
  dsimp only at h
  rcases runFrom_bind_eq_error_iff.mp h with h | ⟨⟨k, files⟩, m₁, -, h⟩
  · exact eq_of_lift_error h
  · cases h

theorem eq_of_openTemporary_error {directory : Path}
    (h : runFrom (openTemporary directory) m = (.error f, m')) : m' = m := by
  unfold openTemporary at h
  split at h
  all_goals rcases runFrom_bind_eq_error_iff.mp h with h | ⟨here, m₁, hhere, h⟩
  · cases h
  · cases hhere
    exact eq_of_createTemporary_error h
  · exact steady_currentDirectory.eq_of_runFrom h
  · obtain rfl := (steady_currentDirectory.eq_of_runFrom hhere).symm
    exact eq_of_createTemporary_error h

theorem eq_of_replace_error (h : runFrom (replace temporary path) m = (.error f, m')) : m' = m := by
  unfold replace at h
  rcases runFrom_bind_eq_error_iff.mp h with h | ⟨_, m₁, hcheck, h⟩
  · exact (steady_checkPath path.text).eq_of_runFrom h
  · obtain rfl := ((steady_checkPath path.text).eq_of_runFrom hcheck).symm
    rw [runFrom_bind, runFrom_get] at h
    dsimp only at h
    split at h
    · cases h
    · cases h
      rfl

/-- However filling the file fails, it is still there under its first name. -/
theorem addsFile_of_fillAndPlace_error (hl : l ≠ []) {m₁ : Machine}
    (h : runFrom (fillAndPlace temporary l path data)
      { m₁ with files := m₁.files.put l (.file [] false) } = (.error f, m')) :
    ∃ files content, m' = { m₁ with files := files } ∧ m₁.files.AddsFile files l content := by
  unfold fillAndPlace at h
  rcases runFrom_bind_eq_error_iff.mp h with h | ⟨text, m₂, htext, h⟩
  · exact ⟨_, [], eq_of_lift_error h, FileSystem.addsFile_put hl⟩
  · obtain ⟨-, rfl⟩ := runFrom_lift_eq_ok_iff.mp htext
    rcases runFrom_bind_eq_error_iff.mp h with h | ⟨_, m₃, hmodify, h⟩
    · cases h
    · cases hmodify
      exact ⟨_, Text.encode text, eq_of_replace_error h, (FileSystem.addsFile_put hl).overwrite hl _⟩

theorem runFrom_removeIfThere {m₁ : Machine} {files : FileSystem} {content : Bytes}
    (hfree : m₁.files.find false m₁.directory temporary.text = .ok ⟨l, none⟩)
    (hfiles : m₁.files.AddsFile files l content) :
    runFrom (removeIfThere temporary) { m₁ with files := files } =
      (.ok (), { m₁ with files := files.remove l }) := by
  have hunlink : files.unlink m₁.directory temporary.text = .ok (files.remove l) := by
    rw [FileSystem.unlink, hfiles.find hfree]
    rfl
  unfold removeIfThere
  rw [runFrom_bind, runFrom_get]
  simp only [hunlink]
  rfl

/-- A write that fails has made directories at most. -/
theorem makesDirectories_of_write_error {p : Path} (hbegins : path.parent.Begins p)
    (h : runFrom (write path data) m = (.error f, m')) : m.MakesDirectories p m' := by
  unfold write at h
  rcases runFrom_bind_eq_error_iff.mp h with h | ⟨_, m₁, hensure, h⟩
  · exact makesDirectories_of_ensureDirectory hbegins h
  have hmakes := makesDirectories_of_ensureDirectory hbegins hensure
  rcases runFrom_bind_eq_error_iff.mp h with h | ⟨⟨temporary, l⟩, m₂, hopen, h⟩
  · obtain rfl := eq_of_openTemporary_error h
    exact hmakes
  obtain ⟨hfree, rfl⟩ := runFrom_openTemporary_eq_ok hopen
  obtain ⟨hl, hnone⟩ := FileSystem.find_entry_eq hfree (by nofun)
  dsimp only at h
  rw [runFrom_tryCatch] at h
  split at h
  next => cases h
  next f' m₃ hfill =>
    obtain ⟨files, content, rfl, hadds⟩ := addsFile_of_fillAndPlace_error hl hfill
    rw [runFrom_bind, runFrom_removeIfThere hfree hadds] at h
    cases h
    -- the file has come and gone
    have hsame (j : Location) : (files.remove l).get? j = m₁.files.get? j := by
      rw [FileSystem.get?_remove, hadds]
      by_cases hj : j = l
      · simp [hj, hl, show m₁.files.get? l = none from hnone]
      · simp [hj]
    refine ⟨hmakes.touches.trans ⟨rfl, .of_get?_eq hsame⟩, ?_⟩
    rw [← hmakes.leaf?_eq]
    funext j
    rw [FileSystem.leaf?, FileSystem.leaf?, hsame]

end JsonFile

end MergeBench
