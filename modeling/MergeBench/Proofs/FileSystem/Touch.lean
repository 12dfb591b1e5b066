import MergeBench.Proofs.Failure
import MergeBench.Proofs.FileSystem.Growth

/-!
What is touched on behalf of some paths: the files that they lead to, and directories that were missing
above them. Nothing is lost on the way, so that what was touched on behalf of one path and then of
another was touched on behalf of the two.
-/

namespace MergeBench

/-- The names of the one path are the first names of the other. -/
structure Path.Begins (p q : Path) : Prop where
  anchor : p.anchor = q.anchor
  names : p.names <+: q.names

theorem Path.Begins.refl (p : Path) : p.Begins p :=
  ⟨rfl, List.prefix_rfl⟩

theorem Path.Begins.trans {p q r : Path} (h : p.Begins q) (h' : q.Begins r) : p.Begins r :=
  ⟨h.anchor.trans h'.anchor, h.names.trans h'.names⟩

theorem Path.parent_begins (p : Path) : p.parent.Begins p :=
  ⟨rfl, List.dropLast_prefix p.names⟩

namespace FileSystem

variable {fs fs' fs₁ fs₂ fs₃ : FileSystem} {here l : Location} {p q : Path}
  {paths paths' : Path → Prop}

/-- Links followed, the path leads to this location, and this is there. -/
def LeadsTo (fs : FileSystem) (here : Location) (p : Path) (l : Location) (e : Entry) : Prop :=
  fs.find true here p.text = .ok ⟨l, some e⟩

theorem Grows.leadsTo {e : Entry} (hfs : fs.Grows fs') (h : fs.LeadsTo here p l e) :
    ∃ e', fs'.LeadsTo here p l e' ∧ e.Keeps e' :=
  find_of_grows h hfs

theorem Grows.leadsTo_directory (hfs : fs.Grows fs') (h : fs.LeadsTo here p l .directory) :
    fs'.LeadsTo here p l .directory := by
  obtain ⟨e', h', hkeeps⟩ := hfs.leadsTo h
  cases hkeeps
  exact h'

theorem Grows.leadsTo_file {content : Bytes} {executable : Bool} (hfs : fs.Grows fs')
    (h : fs.LeadsTo here p l (.file content executable)) :
    ∃ content' executable', fs'.LeadsTo here p l (.file content' executable') := by
  obtain ⟨e', h', hkeeps⟩ := hfs.leadsTo h
  cases hkeeps <;> exact ⟨_, _, h'⟩

/-- The location is that of the file at the path, or of a directory that was missing above it. -/
inductive TouchedFor (here : Location) (fs fs' : FileSystem) (p : Path) (l : Location) : Prop
  | file {content : Bytes} {executable : Bool} (h : fs'.LeadsTo here p l (.file content executable))
  | directory {q : Path} (hbegins : q.Begins p) (hmissing : fs.get? l = none)
      (hmade : fs'.get? l = some .directory) (h : fs'.LeadsTo here q l .directory)

/-- Nothing was lost, and what was touched was touched on behalf of one of the paths. -/
structure Touches (here : Location) (paths : Path → Prop) (fs fs' : FileSystem) : Prop where
  grows : fs.Grows fs'
  touchedFor : ∀ l, fs'.get? l ≠ fs.get? l → ∃ p, paths p ∧ TouchedFor here fs fs' p l

theorem TouchedFor.grow (h : TouchedFor here fs fs₁ p l) (hfs : fs₁.Grows fs₂) :
    TouchedFor here fs fs₂ p l := by
  cases h with
  | file h =>
    obtain ⟨_, _, h'⟩ := hfs.leadsTo_file h
    exact .file h'
  | directory hbegins hmissing hmade h =>
    exact .directory hbegins hmissing (hfs.get?_directory hmade) (hfs.leadsTo_directory h)

theorem Touches.refl (here : Location) (paths : Path → Prop) (fs : FileSystem) :
    fs.Touches here paths fs :=
  ⟨.refl fs, fun _ h => absurd rfl h⟩

theorem Touches.trans (h : fs₁.Touches here paths fs₂) (h' : fs₂.Touches here paths fs₃) :
    fs₁.Touches here paths fs₃ := by
  refine ⟨h.grows.trans h'.grows, fun l hl => ?_⟩
  by_cases hsame : fs₂.get? l = fs₁.get? l
  · obtain ⟨p, hp, htouched⟩ := h'.touchedFor l (by rwa [hsame])
    cases htouched with
    | file hfile => exact ⟨p, hp, .file hfile⟩
    | directory hbegins hmissing hmade hthere =>
      exact ⟨p, hp, .directory hbegins (hsame ▸ hmissing) hmade hthere⟩
  · obtain ⟨p, hp, htouched⟩ := h.touchedFor l hsame
    exact ⟨p, hp, htouched.grow h'.grows⟩

theorem Touches.mono (h : fs.Touches here paths fs') (hpaths : ∀ p, paths p → paths' p) :
    fs.Touches here paths' fs' :=
  ⟨h.grows, fun l hl => (h.touchedFor l hl).imp fun p hp => hp.imp_left (hpaths p)⟩

theorem Touches.get?_eq (h : fs.Touches here paths fs') (hnone : ∀ p, ¬paths p) (l : Location) :
    fs'.get? l = fs.get? l := by
  refine Decidable.byContradiction fun hl => ?_
  obtain ⟨p, hp, -⟩ := h.touchedFor l hl
  exact hnone p hp

/-- Where there is only one path, it leads to what has changed or through it. -/
theorem Touches.leadsTo_of_ne (h : fs.Touches here paths fs') (hpaths : ∀ q, paths q → q = p)
    (hl : fs'.get? l ≠ fs.get? l) : ∃ q e, q.Begins p ∧ fs'.LeadsTo here q l e := by
  obtain ⟨q, hq, htouched⟩ := h.touchedFor l hl
  obtain rfl := hpaths q hq
  cases htouched with
  | file hfile => exact ⟨q, _, .refl q, hfile⟩
  | directory hbegins _ _ hthere => exact ⟨_, _, hbegins, hthere⟩

theorem Touches.of_get?_eq (h : ∀ l, fs'.get? l = fs.get? l) : fs.Touches here paths fs' :=
  ⟨fun l e he => ⟨e, (h l).trans he, .same e⟩, fun l hl => absurd (h l) hl⟩

theorem touches_put {e : Entry} (hl : l ≠ []) (hkeeps : ∀ e', fs.get? l = some e' → e'.Keeps e)
    (h : TouchedFor here fs (fs.put l e) p l) : fs.Touches here (· = p) (fs.put l e) := by
  refine ⟨grows_put hl hkeeps, fun k hk => ⟨p, rfl, ?_⟩⟩
  rw [get?_put fs hl] at hk
  split at hk
  case isTrue heq => exact heq ▸ h
  case isFalse => exact absurd rfl hk

/-! ### Requests -/

theorem touches_makeDirectory (h : fs.makeDirectory here q.text = .ok fs') (hbegins : q.Begins p) :
    fs.Touches here (· = p) fs' := by
  obtain ⟨⟨l, e⟩, hspot, h⟩ := bind_eq_ok_iff.mp h
  cases e with
  | some e => cases h
  | none =>
    cases h
    obtain ⟨hl, hmissing⟩ := find_entry_eq hspot (by nofun)
    have hkeeps : ∀ e', fs.get? l = some e' → e'.Keeps .directory := by
      simp [show fs.get? l = none from hmissing]
    have hmade : (fs.put l .directory).get? l = some .directory := by
      rw [get?_put fs hl, if_pos rfl]
    exact touches_put hl hkeeps (.directory hbegins hmissing hmade
      (find_of_filled hspot (grows_put hl hkeeps) hmade (by nofun)))

theorem touches_openFile (h : fs.openFile here p.text = .ok (l, fs')) :
    fs.Touches here (· = p) fs' ∧ ∃ executable, fs'.LeadsTo here p l (.file [] executable) := by
  obtain ⟨⟨k, e⟩, hspot, h⟩ := bind_eq_ok_iff.mp h
  rcases e with _ | _ | ⟨content, executable⟩ | _
  case some.directory | some.link => cases h
  case none =>
    cases h
    obtain ⟨hl, hfree⟩ := find_entry_eq hspot (by nofun)
    have hkeeps : ∀ e', fs.get? k = some e' → e'.Keeps (.file [] false) := by
      simp [show fs.get? k = none from hfree]
    have hleads : (fs.put k (.file [] false)).LeadsTo here p k (.file [] false) :=
      find_of_filled hspot (grows_put hl hkeeps) (by rw [get?_put fs hl, if_pos rfl]) (by nofun)
    exact ⟨touches_put hl hkeeps (.file hleads), false, hleads⟩
  case some.file =>
    cases h
    obtain ⟨hl, hthere⟩ := find_entry_eq hspot (by nofun)
    have hkeeps : ∀ e', fs.get? k = some e' → e'.Keeps (.file [] executable) := by
      intro e' he'
      rw [hthere] at he'
      cases he'
      exact .rewritten ..
    obtain ⟨content', executable', hleads⟩ := (grows_put hl hkeeps).leadsTo_file hspot
    have hentry := (find_entry_eq hleads (by nofun)).2
    rw [get?_put fs hl, if_pos rfl] at hentry
    cases hentry
    exact ⟨touches_put hl hkeeps (.file hleads), executable, hleads⟩

theorem touches_overwrite {old : Bytes} {executable : Bool}
    (h : fs.LeadsTo here p l (.file old executable)) (content : Bytes) :
    fs.Touches here (· = p) (fs.overwrite l content) := by
  obtain ⟨hl, hthere⟩ := find_entry_eq h (by nofun)
  have hkeeps : ∀ e', fs.get? l = some e' →
      e'.Keeps (.file (content ++ old.drop content.length) executable) := by
    intro e' he'
    rw [hthere] at he'
    cases he'
    exact .rewritten ..
  obtain ⟨_, _, hleads⟩ := (grows_put hl hkeeps).leadsTo_file h
  rw [overwrite, show fs.get? l = _ from hthere]
  exact touches_put hl hkeeps (.file hleads)

end FileSystem

end MergeBench
