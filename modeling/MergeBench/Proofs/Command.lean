import MergeBench.Proofs.Touching

/-!
What running a command comes to. `Goes` has one constructor for each way: the working directory or the
file for the output is not to be had, or the command is attempted. A launcher that leaves files alone
touches nothing but that file, and a refused start is reported for two reasons only.
-/

namespace MergeBench

variable {m m' m₁ : Machine}

/-- Children write to their standard output and error only. -/
def Launcher.LeavesFiles (launch : Launcher) : Prop :=
  ∀ l fs, (launch l fs).files = fs

namespace Command

variable {launch : Launcher} {c : Command} {redirect : Option Location} {l : Location}
  {path : Path}

def HasPlace (c : Command) (m : Machine) : Prop :=
  ∀ d, c.directory = some d → m.HasDirectory d

/-- The file for the output has been opened, if there is to be one. -/
inductive Opens (c : Command) (m : Machine) : Option Location → Machine → Prop
  | nothing (h : c.artifact = none) : Opens c m none m
  | file {path : Path} {l : Location} {m' : Machine} (h : c.artifact = some path)
      (hopen : runFrom (openArtifact path) m = (.ok l, m')) : Opens c m (some l) m'

def attempt (launch : Launcher) (c : Command) (redirect : Option Location) : Act Result := do
  c.conclude redirect (← c.start launch redirect)

inductive Goes (launch : Launcher) (c : Command) (m : Machine) : Except Fault Result → Machine → Prop
  | unsearchable {d : Path} {f : Fault} (hdirectory : c.directory = some d)
      (h : answer (isDirectory d) m = .error f) : Goes launch c m (.error f) m
  | noDirectory {d : Path} (hdirectory : c.directory = some d)
      (h : answer (isDirectory d) m = .ok false) :
      Goes launch c m (.ok (c.failed 0 (.noDirectory d.text))) m
  | unwritable {path : Path} {e : FileError} {m' : Machine} (hplace : c.HasPlace m)
      (hartifact : c.artifact = some path)
      (hopen : runFrom (openArtifact path) m = (.error (.file e), m')) :
      Goes launch c m (.ok (c.failed 0 (.unwritable path.text e))) m'
  | unopened {path : Path} {f : Fault} {m' : Machine} (hplace : c.HasPlace m)
      (hartifact : c.artifact = some path) (hopen : runFrom (openArtifact path) m = (.error f, m'))
      (hf : ∀ e, f ≠ .file e) : Goes launch c m (.error f) m'
  | attempted {redirect : Option Location} {m₁ m' : Machine} {r : Except Fault Result}
      (hplace : c.HasPlace m) (hopens : c.Opens m redirect m₁)
      (hrun : runFrom (attempt launch c redirect) m₁ = (r, m')) : Goes launch c m r m'

/-! ### The ways of a command -/

/-- The part of a run for which the working directory is there. -/
def runThere (launch : Launcher) (c : Command) : Act Result :=
  match c.artifact with
  | none => attempt launch c none
  | some path => do
    let opened : Except FileError Location ←
      try Except.ok <$> openArtifact path
      catch
        | .file e => pure (.error e)
        | f => throw f
    match opened with
    | .error e => return c.failed 0 (.unwritable path.text e)
    | .ok l => attempt launch c (some l)

theorem run_eq (launch : Launcher) (c : Command) :
    run launch c = do
      if ← (c.directory.map isDirectory).getD (pure true) then runThere launch c
      else return c.failed 0 (.noDirectory ((c.directory.map Path.text).getD "")) := by
  unfold run runThere
  congr 1
  funext there
  cases there
  · rfl
  · cases c.artifact <;> rfl

theorem goes_runThere (hplace : c.HasPlace m) {r : Except Fault Result}
    (h : runFrom (runThere launch c) m = (r, m')) : Goes launch c m r m' := by
  unfold runThere at h
  split at h
  next hartifact => exact .attempted hplace (.nothing hartifact) h
  next path hartifact =>
    rw [runFrom_bind, runFrom_tryCatch, runFrom_map, answer] at h
    rcases hopen : runFrom (openArtifact path) m with ⟨f | l, m₁⟩ <;> rw [hopen] at h
    -- only the errors of the file system are caught
    · by_cases hfile : ∃ e, f = .file e
      · obtain ⟨e, rfl⟩ := hfile
        cases h
        exact .unwritable hplace hartifact hopen
      · have hf : ∀ e, f ≠ .file e := fun e he => hfile ⟨e, he⟩
        have hthrow : runFrom (throw f : Act Result) m₁ = (r, m') := by
          cases f with
          | file e => exact absurd rfl (hf e)
          | _ => exact h
        cases hthrow
        exact .unopened hplace hartifact hopen hf
    · exact .attempted hplace (.file hartifact hopen) h

theorem goes_of_run {r : Except Fault Result} (h : runFrom (run launch c) m = (r, m')) :
    Goes launch c m r m' := by
  rw [run_eq] at h
  cases hdirectory : c.directory with
  | none =>
    rw [hdirectory] at h
    exact goes_runThere (by simp [HasPlace, hdirectory]) h
  | some d =>
    rw [hdirectory, Option.map_some, Option.getD_some, runFrom_bind] at h
    rcases hthere : runFrom (isDirectory d) m with ⟨f | there, m₁⟩
    all_goals
      rw [hthere] at h
      obtain rfl := (steady_isDirectory d).eq_of_runFrom hthere
    · cases h
      exact .unsearchable hdirectory (answer_eq_iff.mpr ⟨_, hthere⟩)
    · cases there with
      | false =>
        cases h
        exact .noDirectory hdirectory (answer_eq_iff.mpr ⟨_, hthere⟩)
      | true =>
        refine goes_runThere (fun d' hd' => ?_) h
        rw [hdirectory] at hd'
        cases hd'
        exact answer_isDirectory_eq_true_iff.mp (answer_eq_iff.mpr ⟨_, hthere⟩)

theorem run_of_opens (hplace : c.HasPlace m) (hopens : c.Opens m redirect m₁) :
    runFrom (run launch c) m = runFrom (attempt launch c redirect) m₁ := by
  have hthere : runFrom (run launch c) m = runFrom (runThere launch c) m := by
    rw [run_eq]
    cases hdirectory : c.directory with
    | none => rfl
    | some d =>
      obtain ⟨m', hrun⟩ :=
        answer_eq_iff.mp (answer_isDirectory_eq_true_iff.mpr (hplace d hdirectory))
      rw [Option.map_some, Option.getD_some, runFrom_bind, hrun]
      obtain rfl := (steady_isDirectory d).eq_of_runFrom hrun
      rfl
  rw [hthere, runThere]
  cases hopens with
  | nothing h => rw [h]
  | file h hopen =>
    rw [h]
    dsimp only
    rw [runFrom_bind, runFrom_tryCatch, runFrom_map, answer, hopen]
    rfl

/-! ### What is touched -/

theorem files_of_await {before : FileSystem} {run run' : ChildRun} (hrun : run.files = before)
    (h : c.await redirect before run = .ok run') : run'.files = before := by
  unfold await at h
  split at h
  · cases h
    exact hrun
  · have heq : run' =
        if c.microseconds? == some 0 then ⟨.overran, [], [], before, 0⟩ else run := by
      dsimp only at h
      split at h
      · obtain ⟨_, -, h⟩ := bind_eq_ok_iff.mp h
        cases h
        rfl
      · cases h
        rfl
    rw [heq]
    split
    · rfl
    · exact hrun

theorem steady_start_site (hlaunch : launch.LeavesFiles) (redirect : Option Location) :
    Steady Machine.site (c.start launch redirect) :=
  c.steady_start launch redirect fun m l run hrun => by
    rw [Machine.site, files_of_await (hlaunch l m.files) hrun]
    rfl

def Redirects (c : Command) (m : Machine) (redirect : Option Location) : Prop :=
  ∀ l, redirect = some l → ∃ path content executable, c.artifact = some path ∧
    m.files.LeadsTo m.directory path l (.file content executable)

theorem touchingAt_passOutput (h : c.Redirects m redirect) (run : ChildRun) :
    TouchingAt (c.artifact = some ·) m (c.passOutput redirect run) := by
  unfold passOutput
  split
  next l =>
    obtain ⟨path, content, executable, hartifact, hleads⟩ := h l rfl
    have hoverwrite := FileSystem.touches_overwrite hleads run.stdout
    exact Machine.Touches.mono ⟨rfl, hoverwrite⟩ (by rintro p rfl; exact hartifact)
  · split
    · exact touching_pure () m
    · exact .of_site rfl

theorem touchingAt_conclude (h : c.Redirects m redirect) (run : ChildRun) :
    TouchingAt (c.artifact = some ·) m (c.conclude redirect run) := by
  refine (touchingAt_passOutput h run).bind fun _ m' _ => ?_
  split
  · split
    case h_4 => exact (steady_throw (by nofun)).touching m'
    all_goals exact touching_pure _ m'
  · exact touching_pure _ m'
  · exact (c.steady_finished redirect run _ none).site.touching m'
  · exact (c.steady_finished redirect run _ _).site.touching m'

theorem touchingAt_attempt (hlaunch : launch.LeavesFiles) (h : c.Redirects m redirect) :
    TouchingAt (c.artifact = some ·) m (attempt launch c redirect) := by
  refine TouchingAt.bind ((c.steady_start_site hlaunch redirect).touching m) fun run m' hstart => ?_
  obtain ⟨hsetting, hfiles⟩ :=
    Prod.mk.inj ((c.steady_start_site hlaunch redirect).view_eq_of_runFrom hstart)
  refine touchingAt_conclude (fun l hl => ?_) run
  rw [hfiles, show m'.directory = m.directory from congrArg (fun s => s.2.1) hsetting]
  exact h l hl

theorem runFrom_openArtifact_eq_ok (h : runFrom (openArtifact path) m = (.ok l, m')) :
    hasNull path.text = false ∧
      ∃ executable, m'.files.LeadsTo m'.directory path l (.file [] executable) := by
  unfold openArtifact at h
  rw [runFrom_bind_eq_ok_iff] at h
  obtain ⟨_, m₁, -, h⟩ := h
  rw [runFrom_bind_eq_ok_iff] at h
  obtain ⟨_, _, hcheck, h⟩ := h
  obtain ⟨hnull, rfl⟩ := runFrom_checkPath_eq_ok hcheck
  rw [runFrom_bind_eq_ok_iff] at h
  obtain ⟨_, _, hget, h⟩ := h
  cases hget
  rw [runFrom_bind_eq_ok_iff] at h
  obtain ⟨⟨l', files⟩, _, hopen, h⟩ := h
  obtain ⟨hfiles, rfl⟩ := runFrom_lift_eq_ok_iff.mp hopen
  cases h
  exact ⟨hnull, (FileSystem.touches_openFile hfiles).2⟩

theorem Opens.redirects (h : c.Opens m redirect m₁) : c.Redirects m₁ redirect := by
  cases h with
  | nothing => nofun
  | file hartifact hopen =>
    rintro l ⟨⟩
    obtain ⟨-, executable, hleads⟩ := runFrom_openArtifact_eq_ok hopen
    exact ⟨_, [], executable, hartifact, hleads⟩

theorem Opens.touches (h : c.Opens m redirect m₁) : m.Touches (c.artifact = some ·) m₁ := by
  cases h with
  | nothing => exact .refl _
  | file hartifact hopen =>
    exact ((touching_openArtifact _ m).touches hopen).mono (by rintro p rfl; exact hartifact)

/-- A command touches nothing but the file for its output, and that only if its working directory is
there. -/
theorem touches_run (hlaunch : launch.LeavesFiles) (c : Command) (m : Machine) :
    TouchingAt (fun p => c.artifact = some p ∧ c.HasPlace m) m (run launch c) := by
  unfold TouchingAt
  rcases hrun : runFrom (run launch c) m with ⟨r, m'⟩
  cases goes_of_run hrun with
  | unsearchable => exact .refl _
  | noDirectory => exact .refl _
  | unwritable hplace hartifact hopen | unopened hplace hartifact hopen =>
    exact ((touching_openArtifact _ m).touches hopen).mono (by rintro p rfl; exact ⟨hartifact, hplace⟩)
  | attempted hplace hopens hrun =>
    have htouches := hopens.touches.trans ((touchingAt_attempt hlaunch hopens.redirects).touches hrun)
    exact htouches.mono fun p hp => ⟨hp, hplace⟩

theorem hasFile_of_run (hlaunch : launch.LeavesFiles) {r : Result} (hartifact : c.artifact = some path)
    (h : runFrom (run launch c) m = (.ok r, m')) (hstatus : r.exitCode = 0) : m'.HasFile path := by
  cases goes_of_run h with
  | noDirectory | unwritable => cases hstatus
  | attempted hplace hopens hrun =>
    have htouches := (touchingAt_attempt hlaunch hopens.redirects).touches hrun
    cases hopens with
    | nothing hnone =>
      rw [hartifact] at hnone
      cases hnone
    | file hfile hopen =>
      rw [hartifact] at hfile
      cases hfile
      obtain ⟨hnull, executable, hleads⟩ := runFrom_openArtifact_eq_ok hopen
      exact Machine.HasFile.of_touches ⟨hnull, _, [], executable, hleads⟩ htouches

/-! ### Starting the child -/

/-- The directory that the child starts in. -/
inductive StartsIn (c : Command) (m : Machine) : Location → Prop
  | here (h : c.directory = none) : StartsIn c m m.directory
  | inside {d : Path} {l : Location} (h : c.directory = some d) (hnull : hasNull d.text = false)
      (hleads : m.files.LeadsTo m.directory d l .directory) : StartsIn c m l

theorem StartsIn.hasPlace (h : c.StartsIn m l) : c.HasPlace m := by
  intro d hd
  cases h with
  | here h =>
    rw [hd] at h
    cases h
  | inside h hnull hleads =>
    rw [hd] at h
    cases h
    exact ⟨hnull, l, hleads⟩

theorem StartsIn.of_touches {paths : Path → Prop} (h : c.StartsIn m l) (htouches : m.Touches paths m') :
    c.StartsIn m' l := by
  cases h with
  | here h =>
    rw [← htouches.directory]
    exact .here h
  | inside h hnull hleads =>
    exact .inside h hnull (htouches.directory ▸ htouches.files.grows.leadsTo_directory hleads)

theorem StartsIn.runFrom_childDirectory (h : c.StartsIn m l) :
    runFrom c.childDirectory m = (.ok l, m) := by
  unfold childDirectory
  rw [runFrom_bind, runFrom_get]
  cases h with
  | here h =>
    simp only [h]
    rfl
  | inside h _ hleads =>
    simp only [h, show m.files.find true m.directory _ = _ from hleads]
    rfl

/-- What a command asks its launcher for, once all that it needs is there. -/
inductive Asks (c : Command) (redirect : Option Location) (m : Machine) : Launch → Prop
  | mk {there : Location} {bindings : List (String × String)} (hwords : c.words ≠ [])
      (hstarts : c.StartsIn m there) (hbindings : c.childVariables m.environment = .ok bindings) :
      Asks c redirect m ⟨c.words, there, bindings, c.microseconds?, redirect⟩

theorem runFrom_start {asked : Launch} (hasks : c.Asks redirect m asked) :
    runFrom (c.start launch redirect) m =
      match (c.await redirect m.files (launch asked m.files)).mapError .limit with
      | .ok run => (.ok run, { m with files := run.files, clock := m.clock + run.elapsed })
      | .error f => (.error f, m) := by
  obtain ⟨hwords, hstarts, hbindings⟩ := hasks
  unfold start
  rw [if_neg (by simpa using hwords)]
  simp only [runFrom_bind, runFrom_get, hbindings, runFrom_lift, mapError_ok,
    hstarts.runFrom_childDirectory]
  cases c.await redirect m.files (launch _ m.files) <;> rfl

theorem await_of_refused {before : FileSystem} {child : ChildRun} {e : FileError}
    (h : child.ending = .refused e) : c.await redirect before child = .ok child := by
  unfold await
  rw [h]

/-! ### Refused starts -/

/-- The system refuses to start the child, all that was asked for before being there. -/
structure Refused (launch : Launcher) (c : Command) (m : Machine) (e : FileError) : Prop where
  words : c.words ≠ []
  ending : ∃ there bindings redirect m₁, c.StartsIn m there ∧
    c.childVariables m.environment = .ok bindings ∧ c.Opens m redirect m₁ ∧
    (launch ⟨c.words, there, bindings, c.microseconds?, redirect⟩ m₁.files).ending = .refused e

def refusal (c : Command) (e : FileError) (elapsed : Nat) : Except Fault Result :=
  match e.cause with
  | .noEntry => .ok (c.failed elapsed (.notFound e))
  | .accessDenied | .notPermitted => .ok (c.failed elapsed (.notExecutable e))
  | _ => .error (.file e)

theorem answer_conclude_of_refused {run : ChildRun} {e : FileError} (h : run.ending = .refused e)
    (m : Machine) : answer (c.conclude redirect run) m = c.refusal e run.elapsed := by
  obtain ⟨m₁, hpass⟩ : ∃ m₁, runFrom (c.passOutput redirect run) m = (.ok (), m₁) := by
    unfold passOutput
    split
    · exact ⟨_, rfl⟩
    · split <;> exact ⟨_, rfl⟩
  unfold conclude refusal answer
  rw [runFrom_bind, hpass]
  simp only [h]
  cases e.cause <;> rfl

theorem answer_run_of_refused {e : FileError} (h : Refused launch c m e) :
    ∃ elapsed, answer (run launch c) m = c.refusal e elapsed := by
  obtain ⟨hwords, there, bindings, redirect, m₁, hstarts, hvariables, hopens, hending⟩ := h
  have htouches := hopens.touches
  have henvironment := htouches.environment
  have hasks : c.Asks redirect m₁ ⟨c.words, there, bindings, c.microseconds?, redirect⟩ :=
    .mk hwords (hstarts.of_touches htouches) (henvironment ▸ hvariables)
  generalize hchild : launch ⟨c.words, there, bindings, c.microseconds?, redirect⟩ m₁.files = child
    at hending
  refine ⟨child.elapsed, ?_⟩
  rw [answer, run_of_opens hstarts.hasPlace hopens, attempt, runFrom_bind, runFrom_start hasks,
    hchild, await_of_refused hending]
  exact answer_conclude_of_refused hending _

/-- A refused start is reported with a status and a reason if nothing was found or access was denied;
any other refusal ends the run. -/
theorem refusal_reported_iff {e : FileError} (h : Refused launch c m e) :
    ((∃ r, answer (run launch c) m = .ok r ∧ r.failure ≠ none ∧
      r.exitCode = if e.cause = .noEntry then 127 else 126) ↔
        e.cause ∈ [.noEntry, .accessDenied, .notPermitted]) ∧
    (e.cause ∉ [.noEntry, .accessDenied, .notPermitted] →
      answer (run launch c) m = .error (.file e)) := by
  obtain ⟨elapsed, hanswer⟩ := answer_run_of_refused h
  rw [hanswer, refusal]
  cases hcause : e.cause with
  | noEntry | accessDenied | notPermitted => simp [failed, Failure.status]
  | _ => simp

def refusing (cause : SystemError) : Launcher := fun l files =>
  ⟨.refused ⟨cause, l.words.head?, none⟩, [], [], files, 0⟩

theorem refused_refusing (cause : SystemError) : Refused (refusing cause) { words := ["./tool"] }
    (.inWork [] []) ⟨cause, some "./tool", none⟩ :=
  ⟨by decide, ["work"], [], none, .inWork [] [], .here rfl, rfl, .nothing rfl, rfl⟩

theorem refusal_reported_accessDenied :
    let e : FileError := ⟨.accessDenied, some "./tool", none⟩
    Refused (refusing .accessDenied) { words := ["./tool"] } (.inWork [] []) e ∧
      ((∃ r, answer (run (refusing .accessDenied) { words := ["./tool"] }) (.inWork [] []) = .ok r ∧
        r.failure ≠ none ∧ r.exitCode = if e.cause = .noEntry then 127 else 126) ↔
          e.cause ∈ [.noEntry, .accessDenied, .notPermitted]) ∧
      (e.cause ∉ [.noEntry, .accessDenied, .notPermitted] →
        answer (run (refusing .accessDenied) { words := ["./tool"] }) (.inWork [] []) =
          .error (.file e)) :=
  ⟨refused_refusing _, refusal_reported_iff (refused_refusing _)⟩

/-- A file that is no program is refused, and the refusal is not made into a status. -/
theorem not_refusal_reported_execFormat :
    ¬∀ (launch : Launcher) (c : Command) (m : Machine) (e : FileError), Refused launch c m e →
      ∃ r, answer (run launch c) m = .ok r ∧ r.failure ≠ none ∧
        r.exitCode = if e.cause = .noEntry then 127 else 126 := by
  intro h
  obtain ⟨r, hanswer, -⟩ := h _ _ _ _ (refused_refusing .execFormat)
  obtain ⟨elapsed, hrefusal⟩ := answer_run_of_refused (refused_refusing .execFormat)
  rw [hrefusal] at hanswer
  cases hanswer

end Command

end MergeBench
