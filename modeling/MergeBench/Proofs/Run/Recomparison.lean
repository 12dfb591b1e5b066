import MergeBench.Proofs.Refusal
import MergeBench.Proofs.Run.Footprint

/-!
Comparing again after a run. A run with status zero leaves both results where the comparison looks for
them, so that it is not refused and comes to the last two steps of the run; a receipt that has taken
the place of a link can cut the results off.
-/

namespace MergeBench

variable {m m' : Machine} {p : Path}

theorem CommandLine.hasFile_iff : CommandLine.hasFile m p = true ↔ m.HasFile p := by
  rw [CommandLine.hasFile, Bool.and_eq_true, Bool.not_eq_true', Machine.HasFile]
  refine and_congr_right fun _ => ?_
  unfold FileSystem.LeadsTo
  rcases m.files.find true m.directory p.text with _ | ⟨l, _ | _ | _ | _⟩ <;> simp

theorem Machine.HasFile.not_tooLong (h : m.HasFile p) : ¬CommandLine.TooLong m p := by
  rintro ⟨-, hlong⟩
  obtain ⟨-, l, content, executable, hleads⟩ := h
  rw [show m.files.find true m.directory p.text = _ from hleads] at hlong
  cases hlong

theorem JsonFile.CutsOff.not_tooLong (h : JsonFile.CutsOff m m' p) : ¬CommandLine.TooLong m' p := by
  rintro ⟨-, hlong⟩
  rw [h.not_found] at hlong
  cases hlong

theorem JsonFile.CutsOff.not_hasFile (h : JsonFile.CutsOff m m' p) : CommandLine.hasFile m' p = false := by
  rw [CommandLine.hasFile, h.not_found]
  simp

/-- A file is there still, unless a link on the way to it has been exchanged. -/
theorem Machine.HasFile.of_persists (h : m.HasFile p) (hfs : m.files.Persists m'.files)
    (hdirectory : m'.directory = m.directory) : m'.HasFile p ∨ JsonFile.CutsOff m m' p := by
  obtain ⟨hnull, l, content, executable, hleads⟩ := h
  rw [Machine.HasFile, hdirectory]
  generalize hr : m'.files.find true m.directory p.text = r
  cases hr ▸ FileSystem.find_of_persists hleads hfs with
  | kept hkeeps => cases hkeeps <;> exact .inl ⟨hnull, _, _, _, hr⟩
  | exchanged => exact .inl ⟨hnull, _, _, _, hr⟩
  | cutOff hexchanged =>
    obtain ⟨target, content', executable', hlink, hfile⟩ := hexchanged
    exact .inr ⟨⟨_, target, content', executable', hlink, hfile⟩, by rw [hdirectory]; exact hr⟩

namespace Run

variable {launch : Launcher} {runner : StepRunner Act} {timeout : Int} {s : Settings} {benches : Path}
  {baseline candidate : String} {o : Outcome} {req : CompareRequest}

theorem runFrom_compareStep_eq_ok {e : Execution} {m₁ : Machine} (h₁ : m₁.unsaid = m.unsaid)
    (h : runFrom (runStep launch (Plan.compareStep s benches baseline candidate) false timeout) m₁ =
      (.ok e, m')) :
    e.step = Plan.compareStep s benches baseline candidate ∧
      ∃ m₁ r, m₁.unsaid = m.unsaid ∧
        answer (Command.run launch
          (commandOf (Plan.compareStep s benches baseline candidate) timeout)) m₁ = .ok r ∧
        e.exitCode = r.exitCode := by
  have hkind : (Plan.compareStep s benches baseline candidate).kind ≠ .announce := by
    simp [Plan.compareStep]
  obtain ⟨m₂, r, m₃, hbefore, hcommand, -, hstep, hstatus⟩ := runFrom_runStep_eq_ok hkind h
  exact ⟨hstep, m₂, r, hbefore.trans h₁, answer_eq_iff.mpr ⟨m₃, hcommand⟩, hstatus⟩

/-- A comparison that returns has run its command, and its status is that of the command. -/
theorem Passage.status_of_compareSteps
    (h : Passage (runStep launch) false timeout (Plan.compareSteps s benches baseline candidate) m o m') :
    o.executions.map Execution.step = Plan.compareSteps s benches baseline candidate ∧
      ∃ m₁ r, m₁.unsaid = m.unsaid ∧
        answer (Command.run launch
          (commandOf (Plan.compareStep s benches baseline candidate) timeout)) m₁ = .ok r ∧
        o.exitCode = r.exitCode := by
  cases h with
  | aborted _ hstep habort =>
    obtain ⟨hkind, -⟩ := aborts_eq_true_iff.mp habort
    cases hkind
  | @continued _ e _ _ m₁ _ later hannounce _ hlater =>
    obtain ⟨hunsaid, hstep, -⟩ := runFrom_announce_eq_ok rfl hannounce
    cases hlater with
    | @aborted _ e' _ _ _ hcompare =>
      obtain ⟨hstep', hstatus⟩ := runFrom_compareStep_eq_ok hunsaid hcompare
      exact ⟨by simp [precede, Run.aborted, hstep, hstep', Plan.compareSteps], hstatus⟩
    | @continued _ e' _ _ _ _ later' hcompare hpass hdone =>
      obtain ⟨hstep', m₂, r, hm₂, hanswer, hstatus⟩ := runFrom_compareStep_eq_ok hunsaid hcompare
      cases hdone
      refine ⟨by simp [precede, hstep, hstep', Plan.compareSteps], m₂, r, hm₂, hanswer, ?_⟩
      exact (aborts_eq_false_iff.mp hpass rfl).symm.trans hstatus

theorem passage_of_compare (hdry : req.dryRun = false) {steps : List Step}
    (hprepare : answer (prepareCompare req) m = .ok steps)
    (h : runFrom (compare (runStep launch) req) m = (.ok o, m')) :
    ∃ m₁ m₂, m₁.site = m.site ∧
      Passage (runStep launch) false req.settings.timeout steps m₁ o m₂ := by
  unfold compare at h
  dsimp only at h
  rw [runFrom_bind_eq_ok_iff] at h
  obtain ⟨steps', m₁, hprepared, h⟩ := h
  rw [runFrom_bind_eq_ok_iff] at h
  obtain ⟨o', m₂, hexecute, h⟩ := h
  rw [runFrom_bind_eq_ok_iff] at h
  obtain ⟨_, m₃, -, h⟩ := h
  cases h
  change runFrom (prepareCompare req) m = (.ok steps', m₁) at hprepared
  rw [answer, hprepared] at hprepare
  cases hprepare
  rw [hdry] at hexecute
  exact ⟨m₁, m₂, ((CommandLine.quiet_prepareCompare req).sameWorld_of_runFrom hprepared).site,
    passage_of_execute hexecute⟩

/-- Comparing again is not refused and comes to the last two steps of the run. -/
structure Recompares (req : CompareRequest) (benches : Path) (o : Outcome) (m : Machine) : Prop where
  last : ∃ before, o.executions.map Execution.step =
    before ++ Plan.compareSteps req.settings benches req.baseline req.candidate
  accepted : ∀ launch e, answer (compare (runStep launch) req) m ≠ .error (.config e)
  /-- However the command behaves this time, its status is that of the comparison. -/
  again : ∀ launch o' m', runFrom (compare (runStep launch) req) m = (.ok o', m') →
    o'.executions.map Execution.step =
        Plan.compareSteps req.settings benches req.baseline req.candidate ∧
      ∃ m₁ r, m₁.site = m.site ∧ answer (Command.run launch (commandOf
          (Plan.compareStep req.settings benches req.baseline req.candidate) req.settings.timeout)) m₁ =
            .ok r ∧
        o'.exitCode = r.exitCode

theorem recompares (hdry : req.dryRun = false)
    (hbenches : req.settings.benchesPath m.environment = .ok benches)
    (hlast : ∃ before, o.executions.map Execution.step =
      before ++ Plan.compareSteps req.settings benches req.baseline req.candidate)
    (hfiles : ∀ name ∈ [req.baseline, req.candidate], m.HasFile (benches.join (Path.ofString name))) :
    Recompares req benches o m := by
  have hmissing : answer (missingArtifacts benches [req.baseline, req.candidate]) m = .ok [] := by
    rw [CommandLine.answer_missingArtifacts fun name hname => (hfiles name hname).not_tooLong,
      List.filter_eq_nil_iff.mpr fun name hname => by
        simp [CommandLine.hasFile_iff.mpr (hfiles name hname)]]
  have hprepare : answer (prepareCompare req) m =
      .ok (Plan.compareSteps req.settings benches req.baseline req.candidate) := by
    rw [CommandLine.answer_prepareCompare req hdry hbenches, hmissing]
    rfl
  refine ⟨hlast, fun launch e hrefused => ?_, fun launch o' m' hrun => ?_⟩
  · obtain ⟨m', hrun⟩ := answer_eq_iff.mp hrefused
    rw [answer, CommandLine.compare_refuses_iff.mp hrun] at hprepare
    cases hprepare
  · obtain ⟨m₁, m₂, hsite, hpassage⟩ := passage_of_compare hdry hprepare hrun
    obtain ⟨hsteps, m₃, r, hunsaid, hanswer, hstatus⟩ := hpassage.status_of_compareSteps
    exact ⟨hsteps, m₃, r, (Machine.site_of_unsaid hunsaid).trans hsite, hanswer, hstatus⟩

/-! ### After a run -/

/-- A run with status zero has executed its whole plan, and both results are there before its receipt. -/
theorem hasFile_of_untilReceipt {req : RunRequest} {provenance : Receipt.Provenance}
    (hlaunch : launch.LeavesFiles) (hrunner : Genuine runner) (hpr : req.context.isPullRequest = true)
    (hdry : req.dryRun = false)
    (h : runFrom (untilReceipt launch runner req) m = (.ok (provenance, o), m'))
    (hstatus : o.exitCode = 0) :
    ∃ benches, req.settings.benchesPath m.environment = .ok benches ∧
      o.executions.map Execution.step = Plan.pullRequestSteps req.settings benches req.context.flag
        (BuildContext.optionText req.context.branch) ∧
      m'.HasFile (branchPath req benches) ∧ m'.HasFile (pullRequestPath req benches) := by
  obtain ⟨benches, m₁, hbenches, -, hpassage⟩ := passage_of_untilReceipt hlaunch hpr h
  rw [hdry] at hpassage
  rcases hpassage.executed hrunner with ⟨-, -, hsteps, hsucceeded⟩ | ⟨_, _, _, -, -, -, hfails⟩
  · have hbench (name : String) {path : Path} (hplanned : Plan.benchStep req.settings name path ∈
        Plan.pullRequestSteps req.settings benches req.context.flag
          (BuildContext.optionText req.context.branch)) : m'.HasFile path := by
      rw [← hsteps] at hplanned
      obtain ⟨e, he, hstep⟩ := List.mem_map.mp hplanned
      have hkind : e.step.kind = .command := by rw [hstep]; rfl
      exact hpassage.hasFile hrunner (outputIn_pullRequestSteps _ _ _ _) he hkind
        (hsucceeded e he hkind) (by rw [hstep]; rfl)
    exact ⟨benches, hbenches, hsteps,
      hbench "bench_branch" (by simp [Plan.pullRequestSteps, branchPath]),
      hbench "bench_pr" (by simp [Plan.pullRequestSteps, pullRequestPath])⟩
  · exact absurd hstatus hfails

/-- A receipt leaves the results where they are or makes the comparison miss one of them. -/
theorem recompares_or_cutsOff {m₁ : Machine} {written : Path} {content : Bytes} (hdry : req.dryRun = false)
    (hbenches : req.settings.benchesPath m₁.environment = .ok benches)
    (hlast : ∃ before, o.executions.map Execution.step =
      before ++ Plan.compareSteps req.settings benches req.baseline req.candidate)
    (hfiles : ∀ name ∈ [req.baseline, req.candidate], m₁.HasFile (benches.join (Path.ofString name)))
    (hdeposits : m₁.Deposits written content m') :
    Recompares req benches o m' ∨
      (∃ name ∈ [req.baseline, req.candidate],
        JsonFile.CutsOff m₁ m' (benches.join (Path.ofString name))) ∧
      ∃ names, answer (prepareCompare req) m' =
        .error (.config (.missingArtifacts benches.text names)) := by
  have hsetting := hdeposits.setting
  have hdirectory : m'.directory = m₁.directory := congrArg (fun setting => setting.2.1) hsetting
  rw [← show m'.environment = m₁.environment from congrArg Prod.fst hsetting] at hbenches
  have hleft (name : String) (hname : name ∈ [req.baseline, req.candidate]) :=
    (hfiles name hname).of_persists hdeposits.persists hdirectory
  by_cases hall : ∀ name ∈ [req.baseline, req.candidate],
      m'.HasFile (benches.join (Path.ofString name))
  · exact .inl (recompares hdry hbenches hlast hall)
  · simp only [not_forall] at hall
    obtain ⟨name, hname, hgone⟩ := hall
    have hcut := (hleft name hname).resolve_left hgone
    refine .inr ⟨⟨name, hname, hcut⟩, _, CommandLine.answer_prepareCompare_of_missing req hdry hbenches
      ⟨name, hname, hcut.not_hasFile⟩ fun name hname => ?_⟩
    rcases hleft name hname with hthere | hcut
    · exact hthere.not_tooLong
    · exact hcut.not_tooLong

/-- After a run with status zero the same comparison can be run again, unless the receipt of the run has
cut off one of the results. -/
theorem recompares_of_benchmark {vars : Settings.Variables} {givenFlag givenBranch : Option String}
    {c : BuildContext} (hc : s.context? vars givenFlag givenBranch = .ok c)
    (hpr : c.isPullRequest = true) (hlaunch : launch.LeavesFiles) (hrunner : Genuine runner)
    (receipt : Option String)
    (hrun : runFrom (benchmark launch runner ⟨c, s, false, receipt⟩) m = (.ok o, m'))
    (hstatus : o.exitCode = 0) :
    ∃ branch benches p m₁, c.branch = some branch ∧ s.benchesPath m.environment = .ok benches ∧
      runFrom (untilReceipt launch runner ⟨c, s, false, receipt⟩) m = (.ok (p, o), m₁) ∧
      ∀ receipt',
        let again : CompareRequest :=
          ⟨s, Plan.branchArtifact branch, Plan.pullRequestArtifact c.flag, false, receipt'⟩
        Recompares again benches o m' ∨
          receipt ≠ none ∧ (∃ name ∈ [again.baseline, again.candidate],
            JsonFile.CutsOff m₁ m' (benches.join (Path.ofString name))) ∧
          ∃ names, answer (prepareCompare again) m' =
            .error (.config (.missingArtifacts benches.text names)) := by
  obtain ⟨branch, -, hbranch, -⟩ := Settings.branch_of_context? hc hpr
  obtain ⟨p, m₁, huntil, hreceipt⟩ := runFrom_benchmark_eq_ok hpr hrun
  have htouches := touches_of_untilReceipt hlaunch hrunner hpr rfl huntil
  obtain ⟨benches, hbenches, hsteps, hbaseline, hcandidate⟩ :=
    hasFile_of_untilReceipt hlaunch hrunner hpr rfl huntil hstatus
  refine ⟨branch, benches, p, m₁, hbranch, hbenches, huntil, fun receipt' => ?_⟩
  intro again
  rw [branchPath, hbranch] at hbaseline
  have hthere : again.settings.benchesPath m₁.environment = .ok benches :=
    htouches.environment ▸ hbenches
  have hlast : ∃ before, o.executions.map Execution.step =
      before ++ Plan.compareSteps s benches again.baseline again.candidate := by
    rw [hsteps, hbranch]
    exact ⟨_, rfl⟩
  have hfiles : ∀ name ∈ [again.baseline, again.candidate],
      m₁.HasFile (benches.join (Path.ofString name)) := by
    rintro name (_ | ⟨_, _ | ⟨_, ⟨⟩⟩⟩)
    · exact hbaseline
    · exact hcandidate
  rcases records_of_writeReceipt hreceipt with
    ⟨-, rfl⟩ | ⟨written, _, _, ⟨path, hsome, -⟩, _, hdeposits⟩
  · exact .inl (recompares rfl hthere hlast hfiles)
  · refine (recompares_or_cutsOff rfl hthere hlast hfiles hdeposits).imp_right ?_
    rintro ⟨hcut, hmissing⟩
    exact ⟨by simp [show receipt = some path from hsome], hcut, hmissing⟩

theorem exists_runFrom_of_exitCode {act : Act Outcome} {n : Int}
    (h : yields ((answer act m).map Outcome.exitCode) n = true) :
    ∃ o, runFrom act m = (.ok o, (runFrom act m).2) ∧ o.exitCode = n := by
  rw [yields_iff] at h
  cases hanswer : answer act m with
  | error f =>
    rw [hanswer] at h
    cases h
  | ok o =>
    rw [hanswer] at h
    exact ⟨o, Prod.ext hanswer rfl, Except.ok.inj h⟩

def succeeding : Launcher := fun _ files =>
  ⟨.exited 0, [], [], files, 0⟩

theorem leavesFiles_succeeding : succeeding.LeavesFiles :=
  fun _ _ => rfl

theorem recompares_of_benchmark_succeeding :
    let s : Settings := { root := Path.ofString "/work" }
    let c : BuildContext := ⟨"7", some "main", "false"⟩
    let run := runFrom (benchmark succeeding (runStep succeeding) ⟨c, s, false, none⟩) (.inWork [] [])
    s.context? (fun _ => none) (some "7") (some "main") = .ok c ∧ c.isPullRequest = true ∧
      succeeding.LeavesFiles ∧ Genuine (runStep succeeding) ∧
      ∃ o, run = (.ok o, run.2) ∧ o.exitCode = 0 ∧
      ∃ branch benches p m₁, c.branch = some branch ∧
        s.benchesPath (Machine.inWork [] []).environment = .ok benches ∧
        runFrom (untilReceipt succeeding (runStep succeeding) ⟨c, s, false, none⟩) (.inWork [] []) =
          (.ok (p, o), m₁) ∧
        ∀ receipt',
          let again : CompareRequest :=
            ⟨s, Plan.branchArtifact branch, Plan.pullRequestArtifact c.flag, false, receipt'⟩
          Recompares again benches o run.2 ∨
            (none : Option String) ≠ none ∧ (∃ name ∈ [again.baseline, again.candidate],
              JsonFile.CutsOff m₁ run.2 (benches.join (Path.ofString name))) ∧
            ∃ names, answer (prepareCompare again) run.2 =
              .error (.config (.missingArtifacts benches.text names)) := by
  intro s c run
  have haccepted : s.context? (fun _ => none) (some "7") (some "main") = .ok c := rfl
  have hgenuine := genuine_runStep leavesFiles_succeeding
  obtain ⟨o, hrun, hstatus⟩ : ∃ o, run = (.ok o, run.2) ∧ o.exitCode = 0 :=
    exists_runFrom_of_exitCode (by decide +kernel)
  exact ⟨haccepted, rfl, leavesFiles_succeeding, hgenuine, o, hrun, hstatus,
    recompares_of_benchmark haccepted rfl leavesFiles_succeeding hgenuine none hrun hstatus⟩

/-- A machine whose directory for the results is a link to `d`, with a link to itself beside it. -/
def detoured : Machine :=
  { Machine.inWork [] [] with
    files := ⟨[(["work"], .directory), (["work", "d"], .directory), (["work", "benches"], .link "d"),
      (["work", "loop"], .link "loop")]⟩ }

def refusesConfiguration {α : Type} (r : Except Fault α) : Bool :=
  match r with
  | .error (.config _) => true
  | _ => false

/-- The receipt takes the place of the link `benches`, so that both results are out of reach. -/
theorem not_recompares_detoured :
    ¬∀ (launch : Launcher) (s : Settings) (vars : Settings.Variables)
      (givenFlag givenBranch : Option String) (c : BuildContext) (receipt : Option String)
      (m m' : Machine) (o : Outcome) (branch : String), launch.LeavesFiles →
      s.context? vars givenFlag givenBranch = .ok c → c.isPullRequest = true → c.branch = some branch →
      runFrom (benchmark launch (runStep launch) ⟨c, s, false, receipt⟩) m = (.ok o, m') →
      o.exitCode = 0 → ∀ e, answer (compare (runStep launch)
        ⟨s, Plan.branchArtifact branch, Plan.pullRequestArtifact c.flag, false, none⟩) m' ≠
          .error (.config e) := by
  intro h
  let req := requestInWork false "loop/../benches"
  let run := runFrom (benchmark succeeding (runStep succeeding) req) detoured
  obtain ⟨o, hrun, hstatus⟩ : ∃ o, run = (.ok o, run.2) ∧ o.exitCode = 0 :=
    exists_runFrom_of_exitCode (by decide +kernel)
  have haccepted := h succeeding req.settings (fun _ => none) (some "7") (some "main") req.context
    (some "loop/../benches") detoured run.2 o "main" leavesFiles_succeeding rfl rfl rfl hrun hstatus
  have hrefused : refusesConfiguration (answer (compare (runStep succeeding)
      ⟨req.settings, Plan.branchArtifact "main", Plan.pullRequestArtifact req.context.flag, false, none⟩)
      run.2) = true := by decide +kernel
  unfold refusesConfiguration at hrefused
  split at hrefused
  next e heq => exact haccepted e heq
  next => cases hrefused

end Run

end MergeBench
