import MergeBench.Proofs.FileSystem.Straight
import MergeBench.Proofs.Run.Trail

/-!
The two results of a run. Whether their paths are apart is a matter of the name of the branch, which is
used as it is: only the letters that the other name begins with keep them apart. Where they are, and the
ways to them are straight, neither benchmark is in the way of the other.
-/

namespace MergeBench

namespace Path

variable {p q r : Path}

theorem begins_join_iff (hq : q.isAbsolute = false) (hr : r.isAbsolute = false) :
    (p.join q).Begins (p.join r) ↔ q.Begins r := by
  have hrelative {q : Path} (hq : q.isAbsolute = false) : q.anchor = .relative := by
    simpa [isAbsolute] using hq
  have hjoin {q : Path} (hq : q.isAbsolute = false) : p.join q = ⟨p.anchor, p.names ++ q.names⟩ := by
    simp [join, hq]
  rw [hjoin hq, hjoin hr]
  constructor
  · intro h
    exact ⟨(hrelative hq).trans (hrelative hr).symm, (List.prefix_append_right_inj _).mp h.names⟩
  · intro h
    exact ⟨rfl, (List.prefix_append_right_inj _).mpr h.names⟩

theorem apart_join_iff (hq : q.isAbsolute = false) (hr : r.isAbsolute = false) :
    (p.join q).Apart (p.join r) ↔ q.Apart r := by
  unfold Apart
  rw [begins_join_iff hq hr, begins_join_iff hr hq]

/-- Paths with different first names are apart. -/
theorem apart_of_first {anchor anchor' : Anchor} {name name' : String} {rest rest' : List String}
    (h : name ≠ name') : Path.Apart ⟨anchor, name :: rest⟩ ⟨anchor', name' :: rest'⟩ := by
  constructor
  · intro hbegins
    exact h (List.cons_prefix_cons.mp hbegins.names).1
  · intro hbegins
    exact h (List.cons_prefix_cons.mp hbegins.names).1.symm

end Path

namespace Plan

theorem exists_path_pullRequestArtifact (number : String) : ∃ tail rest,
    Path.ofString (pullRequestArtifact number) = ⟨.relative, ("PR_" ++ tail) :: rest⟩ := by
  obtain ⟨first, later, hsplit⟩ : ∃ first later, number.toList.splitOn '/' = first :: later :=
    List.exists_cons_of_ne_nil (List.splitOn_ne_nil '/' number.toList)
  have hletters : (pullRequestArtifact number).toList = 'P' :: 'R' :: '_' :: number.toList := by
    simp [pullRequestArtifact]
  have hpieces : (pullRequestArtifact number).toList.splitOn '/' =
      ('P' :: 'R' :: '_' :: first) :: later := by
    rw [hletters]
    simp [List.splitOn_cons_eq_if_modifyHead, hsplit]
  have hfirst : String.ofList ('P' :: 'R' :: '_' :: first) = "PR_" ++ String.ofList first := by
    apply String.toList_inj.mp
    simp
  refine ⟨String.ofList first, (later.map String.ofList).filter fun name => name != "" && name != ".", ?_⟩
  rw [Path.ofString, Path.namesOf, hpieces, hletters, List.map_cons, hfirst, List.filter_cons_of_pos]
  · rfl
  · have hlong {s : String} (hs : s.toList.length < 3) : "PR_" ++ String.ofList first ≠ s := by
      rintro rfl
      simp only [String.toList_append, List.length_append] at hs
      exact absurd hs (by simp)
    have hempty := hlong (s := "") (by decide)
    have hhere := hlong (s := ".") (by decide)
    simp [hempty, hhere]

end Plan

namespace Settings

theorem proper_expandHome {env : Environment} {p q : Path} (hp : p.Proper)
    (h : p.expandHome env = .ok q) : q.Proper := by
  unfold Path.expandHome at h
  split at h
  next first rest hnames =>
    split at h
    · split at h
      · cases h
        exact hp
      · split at h
        · cases h
        next home _ =>
          split at h
          · cases h
          · cases h
            intro name hname
            rcases List.mem_append.mp hname with hname | hname
            · exact Path.proper_ofString home name hname
            · exact hp name (hnames ▸ List.mem_cons_of_mem first hname)
    · cases h
      exact hp
  · cases h
    exact hp

theorem proper_benchesPath {s : Settings} {env : Environment} {benches : Path} (hroot : s.root.Proper)
    (h : s.benchesPath env = .ok benches) : benches.Proper := by
  obtain ⟨q, hq, hbenches⟩ := bind_eq_ok_iff.mp h
  cases hbenches
  exact hroot.join (proper_expandHome (Path.proper_ofString s.benchesDir) hq)

end Settings

namespace Run

variable {launch : Launcher} {timeout : Int} {s : Settings} {benches first second p : Path}
  {number branch : String} {stages earlier later : List Stage} {stage other : Stage} {m m' : Machine}
  {r : Except Fault Outcome}

/-- Neither of two results is in the way of the other, from one machine to another. -/
structure Undisturbed (first second : Path) (m : Machine) (stages : List Stage) (m' : Machine) :
    Prop where
  /-- The file that the first benchmark opened is in the end what it was right after it. -/
  kept : ∀ s ∈ stages, s.step.name = "bench_pr" → ∀ l m₁, s.OpensAt first l m₁ →
    m'.files.get? l = s.after.files.get? l
  /-- What the second benchmark meets on its way and was not there in the beginning is a directory above
  its file. -/
  free : ∀ s ∈ stages, s.step.name = "bench_branch" → ∀ q l e, q.Begins second →
    s.before.files.find true s.before.directory q.text = .ok ⟨l, some e⟩ →
    s.before.files.get? l ≠ m.files.get? l → m.files.get? l = none ∧ e = .directory ∧ q ≠ second

/-! ### The stages around one stage -/

theorem Trail.name_ne (h : Trail (runStep launch) false timeout
      (Plan.pullRequestSteps s benches number branch) m stages r m')
    (hstages : stages = earlier ++ stage :: later) (hother : other ∈ earlier ++ later) :
    other.step.name ≠ stage.step.name := by
  have hprefix : stages.map (fun s => s.step.name) <+: stepNames := by
    have hsteps := h.map_step_prefix.map Step.name
    rwa [map_name_pullRequestSteps, List.map_map] at hsteps
  have hnodup := nodup_stepNames.sublist hprefix.sublist
  rw [hstages, List.map_append, List.map_cons, List.nodup_middle, ← List.map_append,
    List.nodup_cons] at hnodup
  intro hname
  exact hnodup.1 (List.mem_map.mpr ⟨other, hother, hname⟩)

theorem Trail.eq_of_named (h : Trail (runStep launch) false timeout
      (Plan.pullRequestSteps s benches number branch) m stages r m')
    (hstages : stages = earlier ++ stage :: later) {runs : List Stage} (hruns : runs ⊆ earlier ++ later)
    (hnamed : Named runs p) :
    (stage.step.name = "bench_branch" →
        p = benches.join (Path.ofString (Plan.pullRequestArtifact number))) ∧
      (stage.step.name = "bench_pr" → p = benches.join (Path.ofString (Plan.branchArtifact branch))) := by
  obtain ⟨other, hother, hartifact⟩ := hnamed
  have hmem : other ∈ stages := by
    have hsplit := hruns hother
    rw [hstages]
    rw [List.mem_append] at hsplit ⊢
    exact hsplit.imp_right (List.mem_cons_of_mem stage)
  have hne := h.name_ne hstages (hruns hother)
  rcases eq_benchStep_of_artifact (h.mem_steps hmem) hartifact with hbench | hbench
  · rw [hbench] at hartifact hne
    exact ⟨fun _ => (Option.some.inj hartifact).symm, fun hname => absurd hname.symm hne⟩
  · rw [hbench] at hartifact hne
    exact ⟨fun hname => absurd hname.symm hne, fun _ => (Option.some.inj hartifact).symm⟩

/-! ### Straight ways to both results -/

theorem Stage.OpensAt.location_eq {l : Location} {m₁ : Machine} (h : stage.OpensAt p l m₁)
    (hstraight : p.StraightFrom stage.before.files stage.before.directory) :
    l = p.locationFrom stage.before.directory := by
  obtain ⟨-, executable, hleads⟩ := Command.runFrom_openArtifact_eq_ok h.opened
  have htold : stage.before.Touches (· = p) stage.told := .of_unsaid (Machine.unsaid_report _ _)
  have htouches := htold.trans ((Command.touching_openArtifact p stage.told).touches h.opened)
  rw [← htouches.directory]
  exact (htouches.directory ▸ hstraight.of_touches htouches.files).find_location hleads

theorem Trail.undisturbed (hlaunch : launch.LeavesFiles)
    (h : Trail (runStep launch) false timeout (Plan.pullRequestSteps s benches number branch) m stages r m')
    (hfirst : first = benches.join (Path.ofString (Plan.pullRequestArtifact number)))
    (hsecond : second = benches.join (Path.ofString (Plan.branchArtifact branch)))
    (hapart : first.Apart second) (hanchor : first.anchor = second.anchor)
    (hway : first.StraightFrom m.files m.directory) (hway' : second.StraightFrom m.files m.directory) :
    Undisturbed first second m stages m' where
  kept := by
    intro stage hs hname l m₁ hopens
    obtain ⟨earlier, later, hstages⟩ := List.append_of_mem hs
    obtain ⟨hbefore, hafter⟩ := h.touches_around hlaunch hstages
    have hwhole := h.touches hlaunch
    have hl : l = first.locationFrom m.directory := by
      rw [← hbefore.directory]
      exact hopens.location_eq (hbefore.directory ▸ hway.of_touches hbefore.files)
    -- a later stage would have touched the file on behalf of the second result
    refine Decidable.byContradiction fun hchanged => ?_
    obtain ⟨p, hnamed, htouched⟩ := hafter.files.touchedFor l hchanged
    obtain rfl : p = second := by
      rw [hsecond]
      exact (h.eq_of_named hstages (List.subset_append_right _ _) hnamed).2 hname
    have hdirectory : stage.after.directory = m.directory :=
      hafter.directory.symm.trans hwhole.directory
    rw [hdirectory] at htouched
    obtain ⟨hwithin, -⟩ := (hway'.of_touches hwhole.files).touchedFor htouched
    rw [hl] at hwithin
    exact hapart.1 (Path.begins_of_locationFrom_prefix hanchor hwithin)
  free := by
    intro stage hs hname q l e hq hfind hchanged
    obtain ⟨earlier, later, hstages⟩ := List.append_of_mem hs
    obtain ⟨hbefore, -⟩ := h.touches_around hlaunch hstages
    obtain ⟨p, hnamed, htouched⟩ := hbefore.files.touchedFor l hchanged
    obtain rfl : p = first := by
      rw [hfirst]
      exact (h.eq_of_named hstages (List.subset_append_left _ _) hnamed).1 hname
    rw [hbefore.directory] at hfind
    have hl : l = q.locationFrom m.directory :=
      ((hway'.of_touches hbefore.files).of_begins hq).find_location hfind
    obtain ⟨hwithin, hend⟩ := (hway.of_touches hbefore.files).touchedFor htouched
    rcases hend with hfile | ⟨hmissing, hmade⟩
    -- the file of the first benchmark is not on the way
    · have hbegins : l <+: second.locationFrom m.directory := hl ▸ hq.locationFrom_prefix m.directory
      rw [hfile] at hbegins
      exact absurd (Path.begins_of_locationFrom_prefix hanchor hbegins) hapart.1
    · refine ⟨hmissing, ?_, ?_⟩
      · refine Decidable.byContradiction fun he => ?_
        obtain ⟨-, hentry⟩ := FileSystem.find_entry_eq hfind (by simpa using he)
        rw [hmade] at hentry
        exact he (Option.some.inj hentry).symm
      · rintro rfl
        rw [hl] at hwithin
        exact hapart.2 (Path.begins_of_locationFrom_prefix hanchor.symm hwithin)

/-! ### The paths of a plan -/

theorem artifacts_of_pullRequestSteps (s : Settings) (benches : Path) (number branch : String) :
    (Plan.pullRequestSteps s benches number branch).filterMap
        (fun step => step.artifact.map (step.name, ·)) =
      [("bench_pr", benches.join (Path.ofString (Plan.pullRequestArtifact number))),
        ("bench_branch", benches.join (Path.ofString (Plan.branchArtifact branch)))] := rfl

/-- The two results of a plan are apart if and only if the name of the branch is apart from that of the
pull request, as it is where its first part begins otherwise. Once they are apart, and the ways to
them straight, neither benchmark is in the way of the other. -/
theorem results_apart {vars : Settings.Variables} {givenFlag givenBranch : Option String}
    {c : BuildContext} {env : Environment} {steps : List Step}
    (hc : s.context? vars givenFlag givenBranch = .ok c) (hpr : c.isPullRequest = true)
    (hplan : Plan.benchmark env c s = .ok steps) :
    ∃ branch first second, c.branch = some branch ∧
      steps.filterMap (fun step => step.artifact.map (step.name, ·)) =
        [("bench_pr", first), ("bench_branch", second)] ∧
      (∃ benches, s.benchesPath env = .ok benches ∧
        first = benches.join (Path.ofString ("PR_" ++ c.flag)) ∧
        second = benches.join (Path.ofString branch)) ∧
      ((Path.ofString branch).isAbsolute = true → second = Path.ofString branch) ∧
      ((Path.ofString branch).isAbsolute = false → (first.Apart second ↔
        (Path.ofString (Plan.pullRequestArtifact c.flag)).Apart (Path.ofString branch))) ∧
      (∀ name rest, Path.ofString branch = ⟨.relative, name :: rest⟩ →
        (∀ tail, name ≠ "PR_" ++ tail) → first.Apart second) ∧
      ∀ launch timeout m stages r m', launch.LeavesFiles →
        Trail (runStep launch) false timeout steps m stages r m' →
        first.Apart second → first.anchor = second.anchor → s.root.Proper →
        (∀ p ∈ [first, second], ".." ∉ p.names ∧ m.files.Straight (p.locationFrom m.directory)) →
        Undisturbed first second m stages m' := by
  obtain ⟨branch, -, hbranch, -⟩ := Settings.branch_of_context? hc hpr
  rw [Plan.benchmark, BuildContext.pullRequest?, hpr] at hplan
  obtain ⟨benches, hbenches, hsteps⟩ := bind_eq_ok_iff.mp hplan
  cases hsteps
  rw [hbranch]
  obtain ⟨tail, rest, hartifact⟩ := Plan.exists_path_pullRequestArtifact c.flag
  have hrelative : (Path.ofString (Plan.pullRequestArtifact c.flag)).isAbsolute = false := by
    rw [hartifact]
    rfl
  refine ⟨branch, _, _, rfl, artifacts_of_pullRequestSteps s benches c.flag branch,
    ⟨benches, hbenches, rfl, rfl⟩, Path.join_of_isAbsolute, fun habsolute => Path.apart_join_iff hrelative habsolute, ?_, ?_⟩
  · intro name rest' hname hfirst
    have hbranchRelative : (Path.ofString branch).isAbsolute = false := by
      rw [hname]
      rfl
    apply (Path.apart_join_iff hrelative hbranchRelative).mpr
    rw [hartifact, hname]
    exact Path.apart_of_first (hfirst tail).symm
  · intro launch timeout m stages r m' hlaunch htrail hapart hanchor hroot hways
    have hproper := Settings.proper_benchesPath hroot hbenches
    obtain ⟨habove, hstraight⟩ := hways _ List.mem_cons_self
    obtain ⟨habove', hstraight'⟩ := hways _ (List.mem_cons_of_mem _ List.mem_cons_self)
    exact htrail.undisturbed hlaunch rfl rfl hapart hanchor
      ⟨hproper.join (Path.proper_ofString _), habove, hstraight⟩
      ⟨hproper.join (Path.proper_ofString _), habove', hstraight'⟩

theorem straight_inWork (l : Location) : (Machine.inWork [] []).files.Straight l := by
  intro k target _ hlink
  by_cases hroot : k = []
  · simp [FileSystem.get?, hroot] at hlink
  · by_cases hwork : k = ["work"]
    · rw [hwork] at hlink
      cases hlink
    · simp [FileSystem.get?, Machine.inWork, hroot, List.lookup_cons, beq_false_of_ne hwork] at hlink

/-- A branch whose result lies in a directory of its own. -/
theorem results_apart_release :
    let s : Settings := { root := Path.ofString "/work" }
    let c : BuildContext := ⟨"7", some "release/1.0", "false"⟩
    let m := Machine.inWork [] []
    let launch : Launcher := fun _ files => ⟨.exited 0, [], [], files, 0⟩
    s.context? (fun _ => none) (some "7") (some "release/1.0") = .ok c ∧ c.isPullRequest = true ∧
      ∃ steps, Plan.benchmark m.environment c s = .ok steps ∧
      ∃ branch first second, c.branch = some branch ∧
        steps.filterMap (fun step => step.artifact.map (step.name, ·)) =
          [("bench_pr", first), ("bench_branch", second)] ∧
        (∃ benches, s.benchesPath m.environment = .ok benches ∧
          first = benches.join (Path.ofString ("PR_" ++ c.flag)) ∧
          second = benches.join (Path.ofString branch)) ∧
        (first.Apart second ↔
          (Path.ofString (Plan.pullRequestArtifact c.flag)).Apart (Path.ofString branch)) ∧
        first.Apart second ∧ launch.LeavesFiles ∧
        ∃ stages r m', Trail (runStep launch) false 0 steps m stages r m' ∧
          Undisturbed first second m stages m' := by
  intro s c m launch
  have haccepted : s.context? (fun _ => none) (some "7") (some "release/1.0") = .ok c := rfl
  let steps := Plan.pullRequestSteps s (s.root.join (Path.ofString "benches")) "7" "release/1.0"
  have hplan : Plan.benchmark m.environment c s = .ok steps := yields_iff.mp (by decide +kernel)
  obtain ⟨branch, first, second, hbranch, hpaths, hplaces, -, hiff, hfirst, hundisturbed⟩ :=
    results_apart haccepted rfl hplan
  obtain rfl : "release/1.0" = branch := Option.some.inj hbranch
  have hlaunch : launch.LeavesFiles := fun _ _ => rfl
  have hapart : first.Apart second := by
    refine hfirst "release" ["1.0"] (by decide) fun tail hname => ?_
    have hletters := congrArg String.toList hname
    simp at hletters
  let run := runFrom (execute (runStep launch) false 0 steps : Act Outcome) m
  obtain ⟨stages, htrail⟩ := trail_of_execute (Prod.eta run).symm
  have hsame : [("bench_pr", ⟨.root, ["work", "benches", "PR_7"]⟩),
      ("bench_branch", ⟨.root, ["work", "benches", "release", "1.0"]⟩)] =
        [("bench_pr", first), ("bench_branch", second)] := hpaths
  obtain ⟨rfl, rfl⟩ : (⟨.root, ["work", "benches", "PR_7"]⟩ : Path) = first ∧
      (⟨.root, ["work", "benches", "release", "1.0"]⟩ : Path) = second := by
    simpa using hsame
  have hkept := hundisturbed launch 0 m stages _ _ hlaunch htrail hapart rfl
    (Path.proper_ofString "/work") fun p hp => by
      refine ⟨?_, straight_inWork _⟩
      rcases List.mem_pair.mp hp with rfl | rfl
      · decide
      · decide
  exact ⟨haccepted, rfl, steps, hplan, "release/1.0", _, _, rfl, hpaths, hplaces, hiff (by decide),
    hapart, hlaunch, stages, _, _, htrail, hkept⟩

/-- A branch with the name of the other result: both benchmarks write to one file. -/
theorem not_apart_same_name :
    ¬∀ (s : Settings) (vars : Settings.Variables) (givenFlag givenBranch : Option String)
      (c : BuildContext) (env : Environment) (steps : List Step) (first second : Path),
      s.context? vars givenFlag givenBranch = .ok c → c.isPullRequest = true →
      Plan.benchmark env c s = .ok steps →
      steps.filterMap (fun step => step.artifact.map (step.name, ·)) =
        [("bench_pr", first), ("bench_branch", second)] → first.Apart second := by
  intro h
  let s : Settings := { root := Path.ofString "/work" }
  let benches := s.root.join (Path.ofString "benches")
  have hapart := h s (fun _ => none) (some "1") (some "PR_1") ⟨"1", some "PR_1", "false"⟩
    ⟨[], "builder", []⟩ (Plan.pullRequestSteps s benches "1" "PR_1") (benches.join (Path.ofString "PR_1"))
    (benches.join (Path.ofString "PR_1")) rfl rfl
    (yields_iff.mp (by decide +kernel)) rfl
  exact hapart.ne rfl

end Run

end MergeBench
