import MergeBench.Proofs.FileSystem.Walk

/-!
File systems from which nothing is lost. While entries are only added and files rewritten, a path that
led somewhere leads there still; a link that is exchanged for a file can cut such a path off. What is
touched on behalf of a path is the file that it leads to, and directories that were missing on the way.
-/

namespace MergeBench

/-- Directories and links stay as they are, and a file stays a file. -/
inductive Entry.Keeps : Entry → Entry → Prop
  | same (e : Entry) : Keeps e e
  | rewritten (content content' : Bytes) (executable executable' : Bool) :
      Keeps (.file content executable) (.file content' executable')

theorem Entry.Keeps.trans {e₁ e₂ e₃ : Entry} (h : e₁.Keeps e₂) (h' : e₂.Keeps e₃) : e₁.Keeps e₃ := by
  cases h with
  | same => exact h'
  | rewritten => cases h' <;> exact .rewritten ..

namespace FileSystem

variable {fs fs' fs₁ fs₂ fs₃ : FileSystem} {follow : Bool} {links : Nat} {here l : Location}
  {names : List String} {e : Entry} {path : String}

/-! ### Growth -/

def Grows (fs fs' : FileSystem) : Prop :=
  ∀ l e, fs.get? l = some e → ∃ e', fs'.get? l = some e' ∧ e.Keeps e'

/-- A file stands where a link was. -/
def Exchanges (fs fs' : FileSystem) (l : Location) : Prop :=
  ∃ target content executable,
    fs.get? l = some (.link target) ∧ fs'.get? l = some (.file content executable)

/-- No entry is lost, though links may have been exchanged for files. -/
def Persists (fs fs' : FileSystem) : Prop :=
  ∀ l e, fs.get? l = some e → (∃ e', fs'.get? l = some e' ∧ e.Keeps e') ∨ fs.Exchanges fs' l

theorem Grows.refl (fs : FileSystem) : fs.Grows fs :=
  fun _ e he => ⟨e, he, .same e⟩

theorem Grows.trans (h : fs₁.Grows fs₂) (h' : fs₂.Grows fs₃) : fs₁.Grows fs₃ := by
  intro l e he
  obtain ⟨e', he', hkeeps⟩ := h l e he
  obtain ⟨e'', he'', hkeeps'⟩ := h' l e' he'
  exact ⟨e'', he'', hkeeps.trans hkeeps'⟩

theorem Grows.persists (h : fs.Grows fs') : fs.Persists fs' :=
  fun l e he => .inl (h l e he)

theorem Grows.trans_persists (h : fs₁.Grows fs₂) (h' : fs₂.Persists fs₃) :
    fs₁.Persists fs₃ := by
  intro l e he
  obtain ⟨e₂, he₂, hkeeps⟩ := h l e he
  rcases h' l e₂ he₂ with ⟨e₃, he₃, hkeeps'⟩ | ⟨target, content, executable, hlink, hfile⟩
  · exact .inl ⟨e₃, he₃, hkeeps.trans hkeeps'⟩
  · rw [hlink] at he₂
    cases he₂
    cases hkeeps
    exact .inr ⟨target, content, executable, he, hfile⟩

theorem Grows.not_exchanges (h : fs.Grows fs') (l : Location) : ¬fs.Exchanges fs' l := by
  rintro ⟨target, content, executable, hlink, hfile⟩
  obtain ⟨e', he', hkeeps⟩ := h l _ hlink
  rw [hfile] at he'
  cases he'
  cases hkeeps

theorem Grows.get?_directory (h : fs.Grows fs') (he : fs.get? l = some .directory) :
    fs'.get? l = some .directory := by
  obtain ⟨e', he', hkeeps⟩ := h l _ he
  cases hkeeps
  exact he'

theorem Grows.get?_link {target : String} (h : fs.Grows fs') (he : fs.get? l = some (.link target)) :
    fs'.get? l = some (.link target) := by
  obtain ⟨e', he', hkeeps⟩ := h l _ he
  cases hkeeps
  exact he'

theorem grows_put (hl : l ≠ []) (h : ∀ e', fs.get? l = some e' → e'.Keeps e) :
    fs.Grows (fs.put l e) := by
  intro k e' he'
  rw [get?_put fs hl]
  split
  case isTrue heq =>
    subst heq
    exact ⟨e, rfl, h e' he'⟩
  case isFalse => exact ⟨e', he', .same e'⟩

/-! ### Walks after growth -/

/-- What becomes of a walk that ended at an entry: it ends there again, or it comes to a file that has
been exchanged for a link and ends at it or goes no further. -/
inductive Resumed (fs fs' : FileSystem) (l : Location) (e : Entry) : Except SystemError Spot → Prop
  | kept {e' : Entry} (h : e.Keeps e') : Resumed fs fs' l e (.ok ⟨l, some e'⟩)
  | exchanged {k : Location} {content : Bytes} {executable : Bool} (h : fs.Exchanges fs' k) :
      Resumed fs fs' l e (.ok ⟨k, some (.file content executable)⟩)
  | cutOff {k : Location} (h : fs.Exchanges fs' k) : Resumed fs fs' l e (.error .notDirectory)

theorem Walks.of_persists (h : Walks fs follow links here names (.ok ⟨l, some e⟩))
    (hfs : fs.Persists fs') :
    ∃ r, Walks fs' follow links here names r ∧ Resumed fs fs' l e r := by
  generalize hr : Except.ok (Spot.mk l (some e)) = r at h
  induction h with
  | arrived =>
    cases hr
    exact ⟨_, .arrived .., .kept (.same _)⟩
  | here later ih => exact (ih hr).imp fun _ h => h.imp_left .here
  | above later ih => exact (ih hr).imp fun _ h => h.imp_left .above
  | tooLong | free | missing | noDirectory | tooManyLinks => cases hr
  | directory hname hentry later ih =>
    rcases hfs _ _ hentry with ⟨e', he', hkeeps⟩ | ⟨target, _, _, hlink, -⟩
    · cases hkeeps
      exact (ih hr).imp fun _ h => h.imp_left (.directory hname he')
    · rw [hentry] at hlink
      cases hlink
  | file links hname hentry =>
    cases hr
    rcases hfs _ _ hentry with ⟨e', he', hkeeps⟩ | ⟨target, _, _, hlink, -⟩
    · cases hkeeps <;> exact ⟨_, .file links hname he', .kept (by constructor)⟩
    · rw [hentry] at hlink
      cases hlink
  -- only at a link can the walk meet an exchanged entry
  | link links hname hentry hfollow =>
    cases hr
    rcases hfs _ _ hentry with ⟨e', he', hkeeps⟩ | hexchanged
    · cases hkeeps
      exact ⟨_, .link links hname he' hfollow, .kept (.same _)⟩
    · obtain ⟨_, content, executable, -, hfile⟩ := id hexchanged
      exact ⟨_, .file links hname hfile, .exchanged hexchanged⟩
  | @followed links here name target rest r hname hentry hend later ih =>
    rcases hfs _ _ hentry with ⟨e', he', hkeeps⟩ | hexchanged
    · cases hkeeps
      exact (ih hr).imp fun _ h => h.imp_left (.followed hname he' hend)
    · obtain ⟨_, content, executable, -, hfile⟩ := id hexchanged
      by_cases hrest : rest = []
      · subst hrest
        exact ⟨_, .file _ hname hfile, .exchanged hexchanged⟩
      · exact ⟨_, .noDirectory _ hname hfile hrest, .cutOff hexchanged⟩

/-- A walk to a free place ends at what has been put there. -/
theorem Walks.of_filled (h : Walks fs follow links here names (.ok ⟨l, none⟩)) (hfs : fs.Grows fs')
    (he : fs'.get? l = some e) (hlink : ∀ target, e ≠ .link target) :
    Walks fs' true links here names (.ok ⟨l, some e⟩) := by
  generalize hr : Except.ok (Spot.mk l none) = r at h
  induction h with
  | arrived | tooLong | missing | file | noDirectory | link | tooManyLinks => cases hr
  | here later ih => exact .here (ih hr)
  | above later ih => exact .above (ih hr)
  | free links hname =>
    cases hr
    cases e with
    | directory => exact .directory hname he (.arrived ..)
    | file => exact .file links hname he
    | link target => exact absurd rfl (hlink target)
  | directory hname hentry later ih => exact .directory hname (hfs.get?_directory hentry) (ih hr)
  | followed hname hentry hend later ih =>
    exact .followed hname (hfs.get?_link hentry) (.inr rfl) (ih hr)

theorem find_of_persists (h : fs.find follow here path = .ok ⟨l, some e⟩) (hfs : fs.Persists fs') :
    Resumed fs fs' l e (fs'.find follow here path) := by
  obtain ⟨hfind, hwalks⟩ := walks_of_find h
  obtain ⟨r, hwalks', hresumed⟩ := hwalks.of_persists hfs
  rwa [hfind, hwalks'.walk_eq]

theorem find_of_grows (h : fs.find follow here path = .ok ⟨l, some e⟩) (hfs : fs.Grows fs') :
    ∃ e', fs'.find follow here path = .ok ⟨l, some e'⟩ ∧ e.Keeps e' := by
  generalize hr : fs'.find follow here path = r
  cases hr ▸ find_of_persists h hfs.persists with
  | kept hkeeps => exact ⟨_, rfl, hkeeps⟩
  | exchanged hk | cutOff hk => exact absurd hk (hfs.not_exchanges _)

theorem find_of_filled (h : fs.find follow here path = .ok ⟨l, none⟩) (hfs : fs.Grows fs')
    (he : fs'.get? l = some e) (hlink : ∀ target, e ≠ .link target) :
    fs'.find true here path = .ok ⟨l, some e⟩ := by
  obtain ⟨hfind, hwalks⟩ := walks_of_find h
  rw [hfind]
  exact (hwalks.of_filled hfs he hlink).walk_eq

end FileSystem

end MergeBench
