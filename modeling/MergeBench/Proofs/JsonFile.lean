import MergeBench.Proofs.FileSystem.Walk
import MergeBench.Proofs.Json.RoundTrip
import MergeBench.Proofs.Steady
import MergeBench.Proofs.Text.Utf8

namespace MergeBench

/-! ### Files and links -/

/-- What is at a location, directories apart. -/
def FileSystem.leaf? (fs : FileSystem) (l : Location) : Option Entry :=
  (fs.get? l).filter (· ≠ .directory)

theorem FileSystem.leaf?_eq_some_iff {fs : FileSystem} {l : Location} {e : Entry} :
    fs.leaf? l = some e ↔ fs.get? l = some e ∧ e ≠ .directory := by
  simp [leaf?, Option.filter_eq_some_iff]

theorem FileSystem.leaf?_makeDirectory {fs fs' : FileSystem} {here : Location} {path : String}
    (h : fs.makeDirectory here path = .ok fs') : fs'.leaf? = fs.leaf? := by
  obtain ⟨⟨l, e⟩, hspot, h⟩ := bind_eq_ok_iff.mp h
  cases e with
  | some e => cases h
  | none =>
    cases h
    obtain ⟨hl, hfree⟩ := find_entry_eq hspot (by nofun)
    funext k
    by_cases hk : k = l
    · subst hk
      simp [leaf?, get?_put fs hl, show fs.get? k = none from hfree]
    · simp [leaf?, get?_put fs hl, hk]

/-- There is one file more, at a free place. -/
def FileSystem.AddsFile (fs fs' : FileSystem) (l : Location) (content : Bytes) : Prop :=
  ∀ j, fs'.get? j = if j = l then some (.file content false) else fs.get? j

namespace FileSystem

variable {fs fs' : FileSystem} {here l : Location} {path : String} {content : Bytes}

theorem addsFile_put (hl : l ≠ []) : fs.AddsFile (fs.put l (.file [] false)) l [] :=
  fun j => get?_put fs hl j _

theorem AddsFile.overwrite (h : fs.AddsFile fs' l []) (hl : l ≠ []) (content : Bytes) :
    fs.AddsFile (fs'.overwrite l content) l content := by
  intro j
  have hthere : fs'.get? l = some (.file [] false) := by rw [h, if_pos rfl]
  rw [FileSystem.overwrite, hthere]
  dsimp only
  rw [get?_put fs' hl, List.drop_nil, List.append_nil, h]
  split <;> rfl

theorem AddsFile.find (h : fs.AddsFile fs' l content)
    (hfree : fs.find false here path = .ok ⟨l, none⟩) :
    fs'.find false here path = .ok ⟨l, some (.file content false)⟩ := by
  refine (find_of_keepsWays hfree (by nofun) (fun k e hk he _ => ?_) (by rw [h, if_pos rfl])
    false).resolve_right ?_
  · rwa [h, if_neg hk]
  · rintro ⟨⟨target, hlink⟩, -⟩
    rw [(find_entry_eq hfree (by nofun)).2] at hlink
    cases hlink

end FileSystem

theorem steady_ensureDirectory_leaf? (path : Path) :
    Steady (fun m => m.files.leaf?) (ensureDirectory path) :=
  steady_makeDirectories (fun _ _ _ h => FileSystem.leaf?_makeDirectory h) _ path

namespace JsonFile

variable {m m' : Machine} {path temporary : Path} {l : Location} {data : Value}

/-! ### The stages of writing -/

theorem runFrom_currentDirectory_eq_ok {here : Location}
    (h : runFrom currentDirectory m = (.ok here, m')) : m' = m := by
  rw [currentDirectory, runFrom_bind, runFrom_get] at h
  dsimp only at h
  split at h <;> cases h
  rfl

theorem find_of_createFile {fs fs' : FileSystem} {here : Location} {text : String}
    (h : fs.createFile here text = .ok (l, fs')) :
    fs.find false here text = .ok ⟨l, none⟩ ∧ fs' = fs.put l (.file [] false) := by
  obtain ⟨⟨k, e⟩, hspot, h⟩ := bind_eq_ok_iff.mp h
  cases e with
  | some e => cases h
  | none =>
    cases h
    exact ⟨hspot, rfl⟩

theorem runFrom_createTemporary_eq_ok {directory : Path}
    (h : runFrom (createTemporary directory) m = (.ok (temporary, l), m')) :
    m.files.find false m.directory temporary.text = .ok ⟨l, none⟩ ∧
      m' = { m with files := m.files.put l (.file [] false) } := by
  unfold createTemporary at h
  rw [runFrom_bind_eq_ok_iff] at h
  obtain ⟨_, _, hget, h⟩ := h
  cases hget
  rw [runFrom_bind_eq_ok_iff] at h
  obtain ⟨⟨k, files⟩, _, hcreate, h⟩ := h
  obtain ⟨hfiles, rfl⟩ := runFrom_lift_eq_ok_iff.mp hcreate
  obtain ⟨hfind, rfl⟩ := find_of_createFile hfiles
  cases h
  exact ⟨hfind, rfl⟩

theorem runFrom_openTemporary_eq_ok {directory : Path}
    (h : runFrom (openTemporary directory) m = (.ok (temporary, l), m')) :
    m.files.find false m.directory temporary.text = .ok ⟨l, none⟩ ∧
      m' = { m with files := m.files.put l (.file [] false) } := by
  unfold openTemporary at h
  split at h
  all_goals
    rw [runFrom_bind_eq_ok_iff] at h
    obtain ⟨here, m₁, hhere, h⟩ := h
  · cases hhere
    exact runFrom_createTemporary_eq_ok h
  · obtain rfl := runFrom_currentDirectory_eq_ok hhere
    exact runFrom_createTemporary_eq_ok h

theorem runFrom_replace_eq_ok (h : runFrom (replace temporary path) m = (.ok (), m')) :
    hasNull path.text = false ∧
      ∃ files, m.files.rename m.directory temporary.text path.text = .ok files ∧
        m' = { m with files := files } := by
  unfold replace at h
  rw [runFrom_bind_eq_ok_iff] at h
  obtain ⟨_, m₁, hcheck, h⟩ := h
  obtain ⟨hnull, rfl⟩ := runFrom_checkPath_eq_ok hcheck
  refine ⟨hnull, ?_⟩
  rw [runFrom_bind, runFrom_get] at h
  dsimp only at h
  split at h
  next files hfiles =>
    cases h
    exact ⟨files, hfiles, rfl⟩
  · cases h

/-- A file that is renamed is at its new place and no longer at the old one; all else is as it was. -/
theorem find_of_rename {fs fs' : FileSystem} {here : Location} {source target : String}
    {content : Bytes} {executable : Bool}
    (hsource : fs.find false here source = .ok ⟨l, some (.file content executable)⟩)
    (h : fs.rename here source target = .ok fs') :
    ∃ k e, fs.find false here target = .ok ⟨k, e⟩ ∧ e ≠ some .directory ∧
      fs'.get? k = some (.file content executable) ∧
      ∀ j, j ≠ k → fs'.get? j = if j = l then none else fs.get? j := by
  unfold FileSystem.rename at h
  split at h
  · cases h
  rw [bind_eq_ok_iff] at h
  obtain ⟨old, hold, h⟩ := h
  rw [hsource] at hold
  cases hold
  obtain ⟨⟨k, e⟩, htarget, h⟩ := bind_eq_ok_iff.mp h
  obtain ⟨hl, hentry⟩ := FileSystem.find_entry_eq hsource (by nofun)
  have he : e ≠ some .directory := by
    rintro rfl
    cases h
  obtain ⟨hk, -⟩ := FileSystem.find_entry_eq htarget he
  have hplaced : (if l == k then .ok fs else
      .ok ((fs.put k (.file content executable)).remove l) : Except SystemError FileSystem) =
        .ok fs' := by
    rcases e with _ | e
    · exact h
    · cases e with
      | directory => exact absurd rfl he
      | file | link => exact h
  refine ⟨k, e, htarget, he, ?_⟩
  split at hplaced
  case isTrue heq =>
    obtain rfl : l = k := eq_of_beq heq
    cases hplaced
    exact ⟨hentry, fun j hj => (if_neg hj).symm⟩
  case isFalse hne =>
    rw [beq_iff_eq] at hne
    cases hplaced
    refine ⟨by simp [FileSystem.get?_remove, FileSystem.get?_put fs hk, Ne.symm hne], fun j hj => ?_⟩
    by_cases hjl : j = l
    · simp [FileSystem.get?_remove, hjl, show l ≠ [] from hl]
    · simp [FileSystem.get?_remove, FileSystem.get?_put fs hk, hj, hjl]

theorem runFrom_fillAndPlace_eq_ok (h : runFrom (fillAndPlace temporary l path data) m = (.ok (), m')) :
    ∃ text, Json.document data = .ok text ∧
      runFrom (replace temporary path)
        { m with files := m.files.overwrite l (Text.encode text) } = (.ok (), m') := by
  unfold fillAndPlace at h
  rw [runFrom_bind_eq_ok_iff] at h
  obtain ⟨text, m₁, htext, h⟩ := h
  obtain ⟨hdocument, rfl⟩ := runFrom_lift_eq_ok_iff.mp htext
  rw [runFrom_bind_eq_ok_iff] at h
  obtain ⟨_, _, hmodify, h⟩ := h
  cases hmodify
  exact ⟨text, hdocument, h⟩

/-- Writing succeeds in four stages: the directory, the temporary file, its content and its place. -/
theorem runFrom_write_eq_ok (h : runFrom (write path data) m = (.ok (), m')) :
    ∃ m₁ temporary l text, runFrom (ensureDirectory path.parent) m = (.ok (), m₁) ∧
      m₁.files.find false m₁.directory temporary = .ok ⟨l, none⟩ ∧
      Json.document data = .ok text ∧ hasNull path.text = false ∧
      ∃ files, ((m₁.files.put l (.file [] false)).overwrite l (Text.encode text)).rename
          m₁.directory temporary path.text = .ok files ∧ m' = { m₁ with files := files } := by
  unfold write at h
  rw [runFrom_bind_eq_ok_iff] at h
  obtain ⟨_, m₁, hensure, h⟩ := h
  rw [runFrom_bind_eq_ok_iff] at h
  obtain ⟨⟨temporary, l⟩, m₂, hopen, h⟩ := h
  obtain ⟨hfree, rfl⟩ := runFrom_openTemporary_eq_ok hopen
  have hfill : runFrom (fillAndPlace temporary l path data)
      { m₁ with files := m₁.files.put l (.file [] false) } = (.ok (), m') := by
    dsimp only at h
    rw [runFrom_tryCatch] at h
    split at h
    next heq => rw [heq, h]
    next f m₃ heq =>
      obtain ⟨_, _, _, hthrow⟩ := runFrom_bind_eq_ok_iff.mp h
      cases hthrow
  obtain ⟨text, hdocument, hreplace⟩ := runFrom_fillAndPlace_eq_ok hfill
  obtain ⟨hnull, files, hrename, rfl⟩ := runFrom_replace_eq_ok hreplace
  exact ⟨m₁, temporary.text, l, text, hensure, hfree, hdocument, hnull, files, hrename, rfl⟩

/-! ### Reading again -/

/-- A link has become a file, and a path leads into that file as if it were a directory. -/
structure CutsOff (m m' : Machine) (path : Path) : Prop where
  link_replaced : ∃ l target content executable,
    m.files.get? l = some (.link target) ∧ m'.files.get? l = some (.file content executable)
  not_found : m'.files.find true m'.directory path.text = .error .notDirectory

/-- A file with this content has come to the end of the path, in the place of this entry or of nothing,
and all else is as it was. -/
structure Places (path : Path) (content : Bytes) (k : Location) (e : Option Entry) (m m' : Machine) :
    Prop where
  found : m.files.find false m.directory path.text = .ok ⟨k, e⟩
  not_directory : e ≠ some .directory
  placed : m'.files.get? k = some (.file content false)
  rest : ∀ j, j ≠ k → m'.files.get? j = m.files.get? j
  setting : m'.setting = m.setting

theorem places_of_write (h : runFrom (write path data) m = (.ok (), m')) :
    hasNull path.text = false ∧ ∃ m₁ text k e, runFrom (ensureDirectory path.parent) m = (.ok (), m₁) ∧
      Json.document data = .ok text ∧ Places path (Text.encode text) k e m₁ m' := by
  obtain ⟨m₁, temporary, l, text, hensure, hfree, hdocument, hnull, files, hrename, rfl⟩ :=
    runFrom_write_eq_ok h
  refine ⟨hnull, m₁, text, ?_⟩
  obtain ⟨hl, hnone⟩ := FileSystem.find_entry_eq hfree (by nofun)
  have hadds : m₁.files.AddsFile _ l (Text.encode text) :=
    (FileSystem.addsFile_put hl).overwrite hl _
  obtain ⟨k, e, htarget, he, hplaced, hrest⟩ := find_of_rename (hadds.find hfree) hrename
  refine ⟨k, if k = l then none else e, hensure, hdocument,
    FileSystem.find_before_filled htarget he hfree hadds, ?_, hplaced, fun j hj => ?_, rfl⟩
  · split
    · nofun
    · exact he
  · dsimp only
    rw [hrest j hj, hadds]
    split
    case isTrue heq => rw [heq, show m₁.files.get? l = none from hnone]
    case isFalse => rfl

/-- Once a file was placed its path leads to it, unless the path leads through the link that was there. -/
theorem Places.leadsTo_or_cut {content : Bytes} {k : Location} {e : Option Entry} (h : Places path content k e m m') :
    m'.files.find true m'.directory path.text = .ok ⟨k, some (.file content false)⟩ ∨
      (∃ target, e = some (.link target)) ∧
        m'.files.find true m'.directory path.text = .error .notDirectory := by
  have hdirectory : m'.directory = m.directory :=
    congrArg (fun setting => setting.2.1) h.setting
  have hways : m.files.KeepsWays m'.files k := fun j d hj hd _ => (h.rest j hj).trans hd
  have hentry := (FileSystem.find_entry_eq h.found h.not_directory).2
  rw [hdirectory]
  refine (FileSystem.find_of_keepsWays h.found h.not_directory hways h.placed true).imp_right ?_
  rintro ⟨⟨target, hlink⟩, hcut⟩
  exact ⟨⟨target, hentry.symm.trans hlink⟩, hcut⟩

/-- After a successful write the path leads to the document, or the write has cut it off. -/
theorem find_of_write (h : runFrom (write path data) m = (.ok (), m')) :
    hasNull path.text = false ∧ ∃ text, Json.document data = .ok text ∧
      ((∃ l, m'.files.find true m'.directory path.text =
        .ok ⟨l, some (.file (Text.encode text) false)⟩) ∨ CutsOff m m' path) := by
  obtain ⟨hnull, m₁, text, k, e, hensure, hdocument, hplaces⟩ := places_of_write h
  refine ⟨hnull, text, hdocument, hplaces.leadsTo_or_cut.imp (fun h => ⟨k, h⟩) ?_⟩
  rintro ⟨⟨target, rfl⟩, hcut⟩
  have hlink := (FileSystem.find_entry_eq hplaces.found hplaces.not_directory).2
  have hleaf := congrFun ((steady_ensureDirectory_leaf? path.parent).view_eq_of_runFrom hensure) k
  have hsome := FileSystem.leaf?_eq_some_iff.mpr ⟨hlink, by nofun⟩
  exact ⟨⟨k, target, _, _, (FileSystem.leaf?_eq_some_iff.mp (hleaf ▸ hsome)).1, hplaces.placed⟩, hcut⟩

theorem quiet_read (path : Path) : Quiet (read path) :=
  (quiet_readText path).bind fun _ => quiet_lift _ _

theorem answer_read (hnull : hasNull path.text = false) (m : Machine) :
    answer (read path) m =
      (((m.files.readFile m.directory path.text).mapError fun cause =>
        Fault.file ⟨cause, some path.text, none⟩).bind fun bytes =>
          (Text.decodeText bytes).mapError .encoding).bind fun text =>
            (Json.read text).mapError .json := by
  unfold read
  rw [(quiet_readText path).answer_bind fun _ => quiet_lift _ _, answer_readText hnull]
  simp only [answer_lift]

theorem CutsOff.answer_read (h : CutsOff m m' path) (hnull : hasNull path.text = false) :
    answer (read path) m' = .error (.file ⟨.notDirectory, some path.text, none⟩) := by
  have hread : m'.files.readFile m'.directory path.text = .error .notDirectory := by
    rw [FileSystem.readFile, h.not_found]
    rfl
  rw [JsonFile.answer_read hnull, hread]
  rfl

theorem answer_read_of_find {text : String} (hnull : hasNull path.text = false)
    (hfind : m.files.find true m.directory path.text = .ok ⟨l, some (.file (Text.encode text) false)⟩)
    (hreturn : '\r' ∉ text.toList) (hdata : Json.read text = .ok data) :
    answer (read path) m = .ok data := by
  have hread : m.files.readFile m.directory path.text = .ok (Text.encode text) := by
    rw [FileSystem.readFile, hfind]
    rfl
  rw [answer_read hnull, hread]
  simp only [mapError_ok, Except.bind, Text.decodeText_encode hreturn, hdata]

/-- A value that was written is read as it was, the entries of its maps in the same order, unless the
write has cut the path off. -/
theorem read_of_write (hdata : Json.Storable Json.nestingLimit data)
    (hwrite : runFrom (write path data) m = (.ok (), m')) :
    answer (read path) m' = .ok data ∨ CutsOff m m' path ∧
      answer (read path) m' = .error (.file ⟨.notDirectory, some path.text, none⟩) := by
  obtain ⟨hnull, text, hdocument, hfound⟩ := find_of_write hwrite
  obtain ⟨hread, hreturn⟩ := Json.read_document hdata hdocument
  rcases hfound with ⟨l, hfind⟩ | hcut
  · exact .inl (answer_read_of_find hnull hfind hreturn hread)
  · exact .inr ⟨hcut, hcut.answer_read hnull⟩

def sample : Value :=
  .map ([("count", .int 1), ("title", .text "a \"b\"\r\n"), ("steps", .list [])].map Json.named)

theorem storable_sample : Json.Storable Json.nestingLimit sample := by
  refine .map (by decide) fun e he => ?_
  simp only [List.mem_cons, List.not_mem_nil, or_false] at he
  rcases he with rfl | rfl | rfl
  · exact .int _ 1
  · exact .text _ _
  · exact .list nofun

theorem read_of_write_new_directory :
    let path := Path.ofString "out/receipt.json"
    let written := runFrom (write path sample) (.inWork [] [])
    Json.Storable Json.nestingLimit sample ∧ written = (.ok (), written.2) ∧
      (answer (read path) written.2 = .ok sample ∨ CutsOff (.inWork [] []) written.2 path ∧
        answer (read path) written.2 = .error (.file ⟨.notDirectory, some path.text, none⟩)) := by
  obtain ⟨_, hwrite⟩ : ∃ a, runFrom (write (Path.ofString "out/receipt.json") sample) (.inWork [] []) =
      (.ok a, _) := exists_runFrom_of_isOk (by decide +kernel)
  exact ⟨storable_sample, hwrite, read_of_write storable_sample hwrite⟩

/-- A machine with a directory `d` and a link `a` to it. -/
def linked : Machine :=
  { Machine.inWork [] [] with
    files := ⟨[(["work"], .directory), (["work", "d"], .directory), (["work", "a"], .link "d")]⟩ }

/-- The path `a/../a` leads through the link `a` and to it; once a file stands there it leads nowhere. -/
theorem not_read_of_write_through_link :
    ¬∀ (path : Path) (data : Value) (m m' : Machine), Json.Storable Json.nestingLimit data →
      runFrom (write path data) m = (.ok (), m') → answer (read path) m' = .ok data := by
  intro h
  obtain ⟨_, hwrite⟩ : ∃ a, runFrom (write (Path.ofString "a/../a") sample) linked = (.ok a, _) :=
    exists_runFrom_of_isOk (by decide +kernel)
  have hread := h (Path.ofString "a/../a") sample linked _ storable_sample hwrite
  have hfails : (answer (read (Path.ofString "a/../a"))
      (runFrom (write (Path.ofString "a/../a") sample) linked).2).isOk = false := by
    decide +kernel
  rw [hread] at hfails
  cases hfails

end JsonFile

end MergeBench
