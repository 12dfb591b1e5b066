import MergeBench.Proofs.Command

namespace MergeBench

variable {m m' m₁ : Machine}

/-- Children write to their standard output and error only, and one that was not started writes nothing. -/
structure Launcher.WritesStreams (launch : Launcher) : Prop where
  files : launch.LeavesFiles
  refused : ∀ l fs e, (launch l fs).ending = .refused e → (launch l fs).stdout = []

theorem FileSystem.leadsTo_overwrite {fs : FileSystem} {here l : Location} {p : Path}
    {executable : Bool} (h : fs.LeadsTo here p l (.file [] executable)) (content : Bytes) :
    (fs.overwrite l content).LeadsTo here p l (.file content executable) := by
  obtain ⟨hl, hthere⟩ := find_entry_eq h (by simp)
  have hfs : fs.overwrite l content = fs.put l (.file content executable) := by
    rw [overwrite, show fs.get? l = _ from hthere]
    simp
  have hkeeps : ∀ e, fs.get? l = some e → e.Keeps (.file content executable) := by
    intro e he
    rw [show fs.get? l = _ from hthere] at he
    cases he
    exact .rewritten ..
  rw [hfs]
  obtain ⟨_, _, hleads⟩ := (grows_put hl hkeeps).leadsTo_file h
  have hentry := (find_entry_eq hleads (by simp)).2
  rw [get?_put fs hl, if_pos rfl] at hentry
  cases hentry
  exact hleads

namespace Command

variable {launch : Launcher} {c : Command} {redirect : Option Location} {l : Location}
  {path : Path} {r : Except Fault Result}

/-- A child that is started is waited for, and not stopped before it does anything. -/
structure Waits (c : Command) (redirect : Option Location) : Prop where
  limit : ∀ limit, c.limit = some limit → limit.check (c.isCaptured redirect) = .ok ()
  some_time : c.microseconds? ≠ some 0

/-- What the child of a command prints. Where no child is started and waited for, that is nothing. -/
inductive Prints (launch : Launcher) (c : Command) (redirect : Option Location) (m : Machine) :
    Bytes → Prop
  | child {l : Launch} (hasks : c.Asks redirect m l) (hwaits : c.Waits redirect)
      (hstarted : ∀ e, (launch l m.files).ending ≠ .refused e) :
      Prints launch c redirect m (launch l m.files).stdout
  | nothing (h : ∀ l, c.Asks redirect m l → c.Waits redirect →
      ∃ e, (launch l m.files).ending = .refused e) : Prints launch c redirect m []

theorem StartsIn.unique {l₁ l₂ : Location} (h₁ : c.StartsIn m l₁) (h₂ : c.StartsIn m l₂) :
    l₁ = l₂ := by
  have hsame := h₁.runFrom_childDirectory.symm.trans h₂.runFrom_childDirectory
  exact Except.ok.inj (Prod.mk.inj hsame).1

theorem Asks.unique {l₁ l₂ : Launch} (h₁ : c.Asks redirect m l₁) (h₂ : c.Asks redirect m l₂) :
    l₁ = l₂ := by
  obtain ⟨-, hstarts₁, hbindings₁⟩ := h₁
  obtain ⟨-, hstarts₂, hbindings₂⟩ := h₂
  obtain rfl := hstarts₁.unique hstarts₂
  obtain rfl := Except.ok.inj (hbindings₁.symm.trans hbindings₂)
  rfl

theorem Prints.of_no_asks (h : ∀ l, ¬c.Asks redirect m l) : Prints launch c redirect m [] :=
  .nothing fun l hl => absurd hl (h l)

theorem Prints.of_no_waits (h : ¬c.Waits redirect) : Prints launch c redirect m [] :=
  .nothing fun _ _ hwaits => absurd hwaits h

theorem Prints.of_no_place (h : ¬c.HasPlace m) : Prints launch c redirect m [] :=
  .of_no_asks fun _ ⟨_, hstarts, _⟩ => h hstarts.hasPlace

theorem HasPlace.exists_startsIn (h : c.HasPlace m) : ∃ there, c.StartsIn m there := by
  cases hdirectory : c.directory with
  | none => exact ⟨_, .here hdirectory⟩
  | some d =>
    obtain ⟨hnull, there, hleads⟩ := h d hdirectory
    exact ⟨there, .inside hdirectory hnull hleads⟩

theorem HasPlace.of_opens (h : c.HasPlace m) (hopens : c.Opens m redirect m₁) : c.HasPlace m₁ :=
  fun d hd => (h d hd).of_touches hopens.touches

/-! ### Starting the child -/

def heard (r : Except Fault ChildRun) : Bytes :=
  match r with
  | .ok run => run.stdout
  | .error _ => []

variable {before : FileSystem} {child : ChildRun}

theorem await_of_started (h : ∀ e, child.ending ≠ .refused e) :
    c.await redirect before child = do
      match c.limit with
      | some limit => limit.check (c.isCaptured redirect)
      | none => pure ()
      return if c.microseconds? == some 0 then ⟨.overran, [], [], before, 0⟩ else child := by
  unfold await
  split
  next e he => exact absurd he (h e)
  next => rfl

theorem await_of_waits (h : ∀ e, child.ending ≠ .refused e) (hwaits : c.Waits redirect) :
    c.await redirect before child = .ok child := by
  have htime : (c.microseconds? == some 0) = false := by simpa using hwaits.some_time
  rw [await_of_started h, htime]
  cases hlimit : c.limit with
  | none => rfl
  | some limit =>
    dsimp only
    rw [hwaits.limit limit hlimit]
    rfl

theorem await_eq_of_waits (hwaits : c.Waits redirect) :
    c.await redirect before child = .ok child := by
  by_cases hrefused : ∃ e, child.ending = .refused e
  · obtain ⟨e, he⟩ := hrefused
    exact await_of_refused he
  · exact await_of_waits (fun e he => hrefused ⟨e, he⟩) hwaits

/-- A child that is not waited for cannot be, or has no time at all. -/
theorem await_of_not_waits (h : ∀ e, child.ending ≠ .refused e) (hwaits : ¬c.Waits redirect) :
    (∃ e, c.await redirect before child = .error e) ∨
      c.await redirect before child = .ok ⟨.overran, [], [], before, 0⟩ := by
  rw [await_of_started h]
  cases hlimit : c.limit with
  | none =>
    have hnone : c.microseconds? = none := by rw [microseconds?, hlimit, Option.bind_none]
    refine absurd ⟨?_, ?_⟩ hwaits
    · intro limit hsome
      rw [hlimit] at hsome
      cases hsome
    · rw [hnone]
      nofun
  | some limit =>
    dsimp only
    cases hcheck : limit.check (c.isCaptured redirect) with
    | error e => exact .inl ⟨e, rfl⟩
    | ok _ =>
      have hzero : c.microseconds? = some 0 := by
        refine Decidable.byContradiction fun htime => hwaits ⟨fun limit' hsome => ?_, htime⟩
        rw [hlimit] at hsome
        cases hsome
        exact hcheck
      rw [hzero]
      exact .inr rfl

/-- Of a child that is not waited for, or for no time at all, nothing is heard. -/
theorem heard_await_of_not_waits (h : ∀ e, child.ending ≠ .refused e) (hwaits : ¬c.Waits redirect) :
    heard ((c.await redirect before child).mapError .limit) = [] := by
  rcases await_of_not_waits h hwaits with ⟨e, he⟩ | hover
  · rw [he]
    rfl
  · rw [hover]
    rfl

theorem Prints.of_await {asked : Launch} (hlaunch : launch.WritesStreams)
    (hasks : c.Asks redirect m asked) : Prints launch c redirect m
      (heard ((c.await redirect m.files (launch asked m.files)).mapError .limit)) := by
  -- a refused child is answered at once, and has printed nothing
  by_cases hrefused : ∃ e, (launch asked m.files).ending = .refused e
  · obtain ⟨e, he⟩ := hrefused
    rw [await_of_refused he, mapError_ok, heard, hlaunch.refused asked m.files e he]
    exact .nothing fun l hl _ => ⟨e, by rw [hl.unique hasks]; exact he⟩
  · have hstarted : ∀ e, (launch asked m.files).ending ≠ .refused e := fun e he => hrefused ⟨e, he⟩
    by_cases hwaits : c.Waits redirect
    · rw [await_of_waits hstarted hwaits]
      exact .child hasks hwaits hstarted
    · rw [heard_await_of_not_waits hstarted hwaits]
      exact .of_no_waits hwaits

/-- Nothing is started for which there are no words, or which no system would take. -/
theorem exists_asks_of_start {run : ChildRun} (hplace : c.HasPlace m)
    (h : runFrom (c.start launch redirect) m = (.ok run, m')) : ∃ l, c.Asks redirect m l := by
  obtain ⟨there, hstarts⟩ := hplace.exists_startsIn
  unfold start at h
  by_cases hwords : c.words = []
  · rw [if_pos (by simpa using hwords)] at h
    cases h
  · rw [if_neg (by simpa using hwords)] at h
    cases hbindings : c.childVariables m.environment with
    | error f =>
      simp only [runFrom_bind, runFrom_get, hbindings, runFrom_lift] at h
      cases h
    | ok bindings => exact ⟨_, .mk hwords hstarts hbindings⟩

theorem prints_of_start {r : Except Fault ChildRun} (hlaunch : launch.WritesStreams)
    (hplace : c.HasPlace m) (h : runFrom (c.start launch redirect) m = (r, m')) :
    Prints launch c redirect m (heard r) := by
  by_cases hasks : ∃ l, c.Asks redirect m l
  · obtain ⟨l, hasks⟩ := hasks
    have hprints := Prints.of_await hlaunch hasks
    rw [runFrom_start hasks] at h
    cases hawait : c.await redirect m.files (launch l m.files) with
    | error e | ok run =>
      rw [hawait] at h hprints
      cases h
      exact hprints
  · cases r with
    | error f => exact .of_no_asks fun l hl => hasks ⟨l, hl⟩
    | ok run => exact absurd (exists_asks_of_start hplace h) hasks

theorem steady_start_sayings (hlaunch : launch.LeavesFiles) (redirect : Option Location) :
    Steady (fun m => (m.site, m.output)) (c.start launch redirect) :=
  c.steady_start launch redirect fun m l run hrun => by
    rw [Machine.site, files_of_await (hlaunch l m.files) hrun]
    rfl

/-! ### Passing on what was heard -/

theorem quiet_finished (redirect : Option Location) (run : ChildRun) (code : Int)
    (failure : Option Failure) : Quiet (c.finished redirect run code failure) := by
  refine (quiet_lift _ _).bind fun (stdout, stderr) => ?_
  dsimp only
  split
  · exact (quiet_printErrorLine stderr).bind fun _ => quiet_pure _
  · exact (quiet_pure ()).bind fun _ => quiet_pure _

def passed (c : Command) (redirect : Option Location) (run : ChildRun) (m : Machine) : Machine :=
  match redirect with
  | some l => ({ m with files := m.files.overwrite l run.stdout }).writeError run.stderr
  | none => if c.capture then m else (m.write run.stdout).writeError run.stderr

theorem runFrom_passOutput (redirect : Option Location) (run : ChildRun) (m : Machine) :
    runFrom (c.passOutput redirect run) m = (.ok (), c.passed redirect run m) := by
  unfold passOutput passed
  cases redirect with
  | some l => rfl
  | none => cases c.capture <;> rfl

theorem sameWorld_of_conclude {run : ChildRun}
    (h : runFrom (c.conclude redirect run) m = (r, m')) : (c.passed redirect run m).SameWorld m' := by
  unfold conclude at h
  rw [runFrom_bind, runFrom_passOutput] at h
  dsimp only at h
  split at h
  · split at h
    case h_4 => exact (quiet_throw _).sameWorld_of_runFrom h
    all_goals exact (quiet_pure _).sameWorld_of_runFrom h
  · exact (quiet_pure _).sameWorld_of_runFrom h
  · exact (quiet_finished redirect run _ none).sameWorld_of_runFrom h
  · exact (quiet_finished redirect run _ _).sameWorld_of_runFrom h

/-- What an attempt comes to: with its child started it passes on what it heard, and it ends without it
otherwise. -/
theorem exists_start_of_attempt (hlaunch : launch.WritesStreams) (hplace : c.HasPlace m)
    (h : runFrom (attempt launch c redirect) m = (r, m')) :
    ∃ started m₁, Prints launch c redirect m (heard started) ∧ m₁.site = m.site ∧
      m₁.output = m.output ∧
      match started with
      | .ok run => (c.passed redirect run m₁).SameWorld m'
      | .error _ => m' = m₁ := by
  unfold attempt at h
  rw [runFrom_bind] at h
  rcases hstart : runFrom (c.start launch redirect) m with ⟨started, m₁⟩
  have hprints := prints_of_start hlaunch hplace hstart
  obtain ⟨hsite, houtput⟩ := Prod.mk.inj
    ((steady_start_sayings hlaunch.files redirect).view_eq_of_runFrom hstart)
  rw [hstart] at h
  refine ⟨started, m₁, hprints, hsite, houtput, ?_⟩
  cases started with
  | error f =>
    cases h
    rfl
  | ok run => exact sameWorld_of_conclude h

theorem output_of_attempt (hlaunch : launch.WritesStreams) (hcapture : c.capture = false)
    (hplace : c.HasPlace m) (h : runFrom (attempt launch c none) m = (r, m')) :
    ∃ bytes, Prints launch c none m bytes ∧ m'.output = m.output ++ bytes := by
  obtain ⟨started, m₁, hprints, -, houtput, hend⟩ := exists_start_of_attempt hlaunch hplace h
  refine ⟨heard started, hprints, ?_⟩
  cases started with
  | error f =>
    rw [show m' = m₁ from hend, houtput]
    exact (List.append_nil _).symm
  | ok run =>
    have hpassed : (c.passed none run m₁).output = m₁.output ++ run.stdout := by
      rw [passed, hcapture]
      rfl
    rw [Machine.SameWorld.output hend, hpassed, houtput]
    rfl

theorem file_of_attempt {executable : Bool} (hlaunch : launch.WritesStreams) (hplace : c.HasPlace m)
    (hleads : m.files.LeadsTo m.directory path l (.file [] executable))
    (h : runFrom (attempt launch c (some l)) m = (r, m')) :
    m'.output = m.output ∧ ∃ bytes, Prints launch c (some l) m bytes ∧
      m'.files.LeadsTo m'.directory path l (.file bytes executable) := by
  obtain ⟨started, m₁, hprints, hsite, houtput, hend⟩ := exists_start_of_attempt hlaunch hplace h
  obtain ⟨hsetting, hfiles⟩ := Prod.mk.inj hsite
  have hdirectory : m₁.directory = m.directory := congrArg (fun setting => setting.2.1) hsetting
  rw [← hfiles, ← hdirectory] at hleads
  cases started with
  | error f =>
    -- the file was emptied when it was opened
    obtain rfl : m' = m₁ := hend
    exact ⟨houtput, _, hprints, hleads⟩
  | ok run =>
    have hsame : Machine.SameWorld (c.passed (some l) run m₁) m' := hend
    refine ⟨hsame.output.trans houtput, _, hprints, ?_⟩
    rw [hsame.files, hsame.directory]
    exact FileSystem.leadsTo_overwrite hleads run.stdout

/-! ### Whole commands -/

theorem hidesFiles_output : HidesFiles Machine.output :=
  fun _ _ => rfl

/-- A command without a file for its output prints what its child does. -/
theorem output_of_run (hlaunch : launch.WritesStreams) (hcapture : c.capture = false)
    (hartifact : c.artifact = none) (h : runFrom (run launch c) m = (r, m')) :
    ∃ bytes, Prints launch c none m bytes ∧ m'.output = m.output ++ bytes := by
  have hunplaced (hno : ¬c.HasPlace m) :
      ∃ bytes, Prints launch c none m bytes ∧ m.output = m.output ++ bytes :=
    ⟨[], .of_no_place hno, (List.append_nil _).symm⟩
  cases goes_of_run h with
  | unsearchable hdirectory hthere | noDirectory hdirectory hthere =>
    refine hunplaced fun hplace => ?_
    rw [answer_isDirectory_eq_true_iff.mpr (hplace _ hdirectory)] at hthere
    cases hthere
  | unwritable _ hfile | unopened _ hfile =>
    rw [hartifact] at hfile
    cases hfile
  | attempted hplace hopens hrun =>
    cases hopens with
    | nothing => exact output_of_attempt hlaunch hcapture hplace hrun
    | file hfile =>
      rw [hartifact] at hfile
      cases hfile

/-- A command with a file for its output prints nothing, whether or not the file can be opened. -/
theorem output_of_run_artifact (hlaunch : launch.WritesStreams) (hartifact : c.artifact = some path)
    (h : runFrom (run launch c) m = (r, m')) : m'.output = m.output := by
  cases goes_of_run h with
  | unsearchable | noDirectory => rfl
  | unwritable _ _ hopen | unopened _ _ hopen =>
    exact (steady_openArtifact hidesFiles_output _).view_eq_of_runFrom hopen
  | attempted hplace hopens hrun =>
    cases hopens with
    | nothing hnone =>
      rw [hartifact] at hnone
      cases hnone
    | file hfile hopen =>
      obtain ⟨-, executable, hleads⟩ := runFrom_openArtifact_eq_ok hopen
      have hopened := (steady_openArtifact hidesFiles_output _).view_eq_of_runFrom hopen
      have hplace' := hplace.of_opens (.file hfile hopen)
      exact (file_of_attempt hlaunch hplace' hleads hrun).1.trans hopened

theorem file_of_run {m₁ : Machine} (hlaunch : launch.WritesStreams) (hplace : c.HasPlace m)
    (hartifact : c.artifact = some path) (hopen : runFrom (openArtifact path) m = (.ok l, m₁))
    (h : runFrom (run launch c) m = (r, m')) :
    ∃ bytes executable, Prints launch c (some l) m₁ bytes ∧
      m'.files.LeadsTo m'.directory path l (.file bytes executable) := by
  rw [run_of_opens hplace (.file hartifact hopen)] at h
  obtain ⟨-, executable, hleads⟩ := runFrom_openArtifact_eq_ok hopen
  have hplace' : c.HasPlace m₁ := hplace.of_opens (.file hartifact hopen)
  obtain ⟨-, bytes, hprints, hfile⟩ := file_of_attempt hlaunch hplace' hleads h
  exact ⟨bytes, executable, hprints, hfile⟩

end Command

end MergeBench
