import MergeBench.Proofs.Receipt.Deposit

/-!
Writing a file as a whole or not at all. However a write ends, all that it may have changed besides the
file itself is that directories which were missing above the file are there; the new file that it first
made beside the target is gone again. A write that ends well has put the whole text at its path.
-/

namespace MergeBench

variable {m m' : Machine} {p path : Path} {l : Location}

namespace Machine

/-- All of a machine but its files. -/
def besideFiles (m : Machine) : Machine :=
  { m with files := ⟨[]⟩ }

theorem hidesFiles_besideFiles : HidesFiles besideFiles :=
  fun _ _ => rfl

/-- Where the two machines differ, a directory on the way along the path was missing and is there now. -/
structure AddsDirectories (path : Path) (m m' : Machine) : Prop where
  added : ∀ l, m'.files.get? l ≠ m.files.get? l →
    m.files.get? l = none ∧ m'.files.get? l = some .directory ∧
      ∃ q : Path, q.Begins path ∧ m'.files.LeadsTo m.directory q l .directory
  /-- A path that led to an entry, links at its end followed or not, leads to the same entry. -/
  kept : ∀ follow q l e, m.files.find follow m.directory q = .ok ⟨l, some e⟩ →
    m'.files.find follow m.directory q = .ok ⟨l, some e⟩

theorem MakesDirectories.get?_of_file {content : Bytes} {executable : Bool}
    (h : m.MakesDirectories p m') (hfile : m'.files.get? l = some (.file content executable)) :
    m.files.get? l = some (.file content executable) := by
  have hleaf : m'.files.leaf? l = some (.file content executable) :=
    FileSystem.leaf?_eq_some_iff.mpr ⟨hfile, by nofun⟩
  rw [h.leaf?_eq] at hleaf
  exact (FileSystem.leaf?_eq_some_iff.mp hleaf).1

theorem MakesDirectories.addsDirectories (h : m.MakesDirectories p m') : m.AddsDirectories p m' where
  added l hl := by
    obtain ⟨_, rfl, htouched⟩ := h.touches.files.touchedFor l hl
    cases htouched with
    | file hleads =>
      obtain ⟨-, hfile⟩ := FileSystem.find_entry_eq hleads (by nofun)
      exact absurd (hfile.trans (h.get?_of_file hfile).symm) hl
    | directory hbegins hmissing hmade hleads => exact ⟨hmissing, hmade, _, hbegins, hleads⟩
  kept follow q l e hfind := by
    obtain ⟨e', hfind', hkeeps⟩ := FileSystem.find_of_grows hfind h.touches.files.grows
    cases hkeeps with
    | same => exact hfind'
    | rewritten content content' executable executable' =>
      obtain ⟨-, hbefore⟩ := FileSystem.find_entry_eq hfind (by nofun)
      obtain ⟨-, hafter⟩ := FileSystem.find_entry_eq hfind' (by nofun)
      have hsame := (h.get?_of_file hafter).symm.trans hbefore
      cases hsame
      exact hfind'

end Machine

/-! ### Directories that were asked for -/

theorem hasDirectory_of_filled {files : FileSystem}
    (h : m.files.makeDirectory m.directory p.text = .ok files) (hnull : hasNull p.text = false) :
    Machine.HasDirectory { m with files := files } p := by
  have htouches := FileSystem.touches_makeDirectory h (.refl p)
  obtain ⟨⟨l, e⟩, hspot, hmade⟩ := bind_eq_ok_iff.mp h
  cases e with
  | some e => cases hmade
  | none =>
    cases hmade
    obtain ⟨hl, -⟩ := FileSystem.find_entry_eq hspot (by nofun)
    have hentry : (m.files.put l .directory).get? l = some .directory := by
      rw [FileSystem.get?_put m.files hl, if_pos rfl]
    exact ⟨hnull, l, FileSystem.find_of_filled hspot htouches.grows hentry (by nofun)⟩

theorem hasDirectory_of_makeDirectory (h : runFrom (makeDirectory p) m = (.ok true, m')) :
    m'.HasDirectory p := by
  unfold makeDirectory at h
  rw [runFrom_bind_eq_ok_iff] at h
  obtain ⟨_, m₁, hcheck, h⟩ := h
  obtain ⟨hnull, rfl⟩ := runFrom_checkPath_eq_ok hcheck
  rw [runFrom_bind, runFrom_get] at h
  dsimp only at h
  split at h
  next files hfiles =>
    cases h
    exact hasDirectory_of_filled hfiles hnull
  · cases h
  · rw [runFrom_bind_eq_ok_iff] at h
    obtain ⟨there, m₂, hthere, h⟩ := h
    obtain rfl := (steady_isDirectory p).eq_of_runFrom hthere
    split at h
    next htrue =>
      cases h
      subst htrue
      exact answer_isDirectory_eq_true_iff.mp (answer_eq_iff.mpr ⟨_, hthere⟩)
    · cases h

theorem hasDirectory_of_makeDirectories {fuel : Nat}
    (h : runFrom (makeDirectories fuel p) m = (.ok (), m')) : m'.HasDirectory p := by
  cases fuel with
  | zero => cases h
  | succ fuel =>
    unfold makeDirectories at h
    rw [runFrom_bind_eq_ok_iff] at h
    obtain ⟨made, m₁, hmade, h⟩ := h
    cases made with
    | true =>
      cases h
      exact hasDirectory_of_makeDirectory hmade
    | false =>
      simp only [Bool.not_false, ↓reduceIte] at h
      split at h
      · cases h
      · rw [runFrom_bind_eq_ok_iff] at h
        obtain ⟨_, m₂, -, h⟩ := h
        rw [runFrom_bind_eq_ok_iff] at h
        obtain ⟨again, m₃, hagain, h⟩ := h
        cases again with
        | true =>
          cases h
          exact hasDirectory_of_makeDirectory hagain
        | false => cases h

theorem hasDirectory_of_ensureDirectory (h : runFrom (ensureDirectory p) m = (.ok (), m')) :
    m'.HasDirectory p :=
  hasDirectory_of_makeDirectories h

namespace JsonFile

variable {data : Value} {text : String} {k : Location} {e : Option Entry}

/-! ### Complete writes -/

/-- A write has put this text at the path: in a directory that was made where it was missing, in the
place of this entry or of nothing. -/
structure Puts (path : Path) (text : String) (k : Location) (e : Option Entry) (m m' : Machine) :
    Prop where
  directories : ∃ m₁, m.AddsDirectories path.parent m₁ ∧ m₁.HasDirectory path.parent ∧
    Places path (Text.encode text) k e m₁ m'
  /-- The path leads to the text, unless it leads through the link whose place the text has taken. -/
  found : m'.files.find true m'.directory path.text = .ok ⟨k, some (.file (Text.encode text) false)⟩ ∨
    (∃ target, e = some (.link target)) ∧
      m'.files.find true m'.directory path.text = .error .notDirectory

theorem exists_puts_of_write (h : runFrom (write path data) m = (.ok (), m')) :
    ∃ text k e, Json.document data = .ok text ∧ Puts path text k e m m' := by
  obtain ⟨-, m₁, text, k, e, hensure, hdocument, hplaces⟩ := places_of_write h
  have hmakes := makesDirectories_of_ensureDirectory (.refl _) hensure
  exact ⟨text, k, e, hdocument, ⟨m₁, hmakes.addsDirectories, hasDirectory_of_ensureDirectory hensure,
    hplaces⟩, hplaces.leadsTo_or_cut⟩

/-- A write puts the whole text in its place, or it fails and leaves all entries as they were; either
way only directories above the path have come into being besides. -/
theorem write_all_or_nothing (path : Path) (data : Value) (m : Machine) :
    (runFrom (write path data) m).2.besideFiles = m.besideFiles ∧
      match runFrom (write path data) m with
      | (.ok _, m') => ∃ text k e, Json.document data = .ok text ∧ Puts path text k e m m'
      | (.error _, m') => m.AddsDirectories path.parent m' := by
  refine ⟨((steady_write Machine.hidesFiles_besideFiles path data) m).view_eq, ?_⟩
  rcases hwrite : runFrom (write path data) m with ⟨f | _, m'⟩
  · exact (makesDirectories_of_write_error (.refl _) hwrite).addsDirectories
  · exact exists_puts_of_write hwrite

/-- The text that is written to `a/../a` takes the place of the link `a`, and is not found at its path. -/
theorem not_puts_through_link :
    ¬∀ (path : Path) (data : Value) (m m' : Machine), runFrom (write path data) m = (.ok (), m') →
      ∃ text k, Json.document data = .ok text ∧ m'.files.find true m'.directory path.text =
        .ok ⟨k, some (.file (Text.encode text) false)⟩ := by
  intro h
  obtain ⟨_, hwrite⟩ : ∃ a, runFrom (write (Path.ofString "a/../a") sample) linked = (.ok a, _) :=
    exists_runFrom_of_isOk (by decide +kernel)
  obtain ⟨text, k, -, hfound⟩ := h _ _ _ _ hwrite
  have hlost : ((runFrom (write (Path.ofString "a/../a") sample) linked).2.files.find true
      (runFrom (write (Path.ofString "a/../a") sample) linked).2.directory
      (Path.ofString "a/../a").text).isOk = false := by
    decide +kernel
  rw [hfound] at hlost
  cases hlost

end JsonFile

end MergeBench
