import Mathlib.Data.List.Nodup
import MergeBench.Proofs.Run.FailFast

/-!
The order of a run for a pull request. A call of a step tells which steps have been called before it
and that the commands among them succeeded, since the names of the planned steps are all different.
-/

namespace MergeBench

/-- The branch of an accepted context is the text that was given or set, and not blank. -/
theorem Settings.branch_of_context? {s : Settings} {vars : Variables}
    {givenFlag givenBranch : Option String} {c : BuildContext}
    (h : s.context? vars givenFlag givenBranch = .ok c) (hpr : c.isPullRequest = true) :
    ∃ branch, s.branch? vars givenBranch = some branch ∧ c.branch = some branch ∧
      Text.isAllBlank branch = false := by
  unfold context? at h
  cases hflag : s.flag? vars givenFlag with
  | none => simp [hflag] at h
  | some flag =>
    simp only [hflag] at h
    split at h
    · cases h
    · split at h
      · cases h
      · rename_i hblank hmissing
        cases h
        simp only [hpr, Bool.true_and, Bool.not_eq_true] at hmissing
        cases htarget : s.branch? vars givenBranch with
        | none => simp [htarget, isMissing] at hmissing
        | some branch =>
          have hfull : Text.isAllBlank branch = false := by
            simpa [htarget, isMissing] using hmissing
          have hne : branch ≠ "" := by
            rintro rfl
            exact absurd hfull (by decide)
          exact ⟨branch, rfl, by simp [hne], hfull⟩

namespace Run

variable {σ : Type} {dryRun : Bool} {timeout : Int} {steps : List Step} {calls : List Call}

/-! ### What comes before a call -/

/-- Before each call of a step with this name the needed steps have been called exactly once each and
in this order, and all of them have succeeded. -/
def Requires (calls : List Call) (name : String) (needed : List String) : Prop :=
  ∀ before c after, calls = before ++ c :: after → c.step.name = name →
    ((before.map fun b => b.step.name).filter fun n => needed.contains n) = needed ∧
      ∀ b ∈ before, b.step.name ∈ needed → b.Succeeds

theorem InOrder.mem_steps (h : InOrder dryRun timeout steps calls) {c : Call} (hc : c ∈ calls) :
    c.step ∈ steps :=
  h.steps_prefix.subset (List.mem_map_of_mem hc)

theorem InOrder.before_call {before after : List Call} {c : Call}
    (h : InOrder dryRun timeout steps (before ++ c :: after)) :
    steps[before.length]? = some c.step ∧ before.map Call.step = steps.take before.length ∧
      ∀ b ∈ before, b.Passes := by
  obtain ⟨others, hsteps⟩ := h.steps_prefix
  rw [List.map_append, List.map_cons, List.append_assoc, List.cons_append] at hsteps
  have hlength : before.length = (before.map Call.step).length := by simp
  refine ⟨?_, ?_, fun b hb => h.passes b ?_⟩
  · rw [← hsteps, hlength, List.getElem?_append_right (Nat.le_refl _), Nat.sub_self]
    rfl
  · rw [← hsteps, hlength, List.take_left]
  · rw [List.dropLast_append_cons]
    exact List.mem_append_left _ hb

/-- Where names are all different, the name of a step tells what was called before it. -/
theorem InOrder.requires (h : InOrder dryRun timeout steps calls) {names : List String}
    (hnames : steps.map Step.name = names) (hnodup : names.Nodup) {name : String}
    {needed : List String} {i : Nat} (hname : names[i]? = some name)
    (hneeded : ((names.take i).filter fun n => needed.contains n) = needed)
    (hkind : ∀ step ∈ steps, step.name ∈ needed → step.kind = .command) :
    Requires calls name needed := by
  rintro before c after rfl hc
  obtain ⟨hstep, hbefore, hpasses⟩ := h.before_call
  have hplace : names[before.length]? = some name := by
    rw [← hnames, List.getElem?_map, hstep, Option.map_some, hc]
  have hlength : before.length = i := by
    obtain ⟨hlt, -⟩ := List.getElem?_eq_some_iff.mp hplace
    exact (List.getElem?_inj hlt hnodup).mp (hplace.trans hname.symm)
  have hcalled : (before.map fun b => b.step.name) = names.take i := by
    calc (before.map fun b => b.step.name)
        = (before.map Call.step).map Step.name := by rw [List.map_map]; rfl
      _ = names.take i := by rw [hbefore, hlength, List.map_take, hnames]
  refine ⟨by rw [hcalled, hneeded], fun b hb hneed => ?_⟩
  exact (hpasses b hb).succeeds
    (hkind b.step (h.mem_steps (List.mem_append_left _ hb)) hneed)

/-! ### The plan of a pull request -/

def switchingSteps : List String :=
  ["git_set_branches", "git_fetch", "git_checkout"]

def stepNames : List String :=
  ["announce_pr", "bench_pr", "announce_checkout"] ++ switchingSteps ++
    ["announce_branch", "bench_branch", "announce_compare", "compare"]

section Plan

variable {s : Settings} {benches : Path} {number branch : String}

theorem map_name_pullRequestSteps :
    (Plan.pullRequestSteps s benches number branch).map Step.name = stepNames := rfl

theorem nodup_stepNames : stepNames.Nodup := by decide

theorem eq_of_name {step step' : Step} (h : step ∈ Plan.pullRequestSteps s benches number branch)
    (h' : step' ∈ Plan.pullRequestSteps s benches number branch) (hname : step.name = step'.name) :
    step = step' :=
  List.inj_on_of_nodup_map (map_name_pullRequestSteps ▸ nodup_stepNames) h h' hname

theorem kind_of_name {step : Step} (h : step ∈ Plan.pullRequestSteps s benches number branch)
    (hname : step.name ∈ "bench_pr" :: switchingSteps ++ ["bench_branch"]) :
    step.kind = .command := by
  simp only [Plan.pullRequestSteps, Plan.compareSteps, List.cons_append, List.nil_append,
    List.mem_cons, List.not_mem_nil, or_false] at h
  rcases h with rfl | rfl | rfl | rfl | rfl | rfl | rfl | rfl | rfl | rfl <;>
    first
    | rfl
    | simp [Plan.announce, switchingSteps] at hname

theorem words_of_name {step : Step} (h : step ∈ Plan.pullRequestSteps s benches number branch)
    (hname : step.name ∈ switchingSteps) : step.words.getLast? = some branch := by
  simp only [Plan.pullRequestSteps, Plan.compareSteps, List.cons_append, List.nil_append,
    List.mem_cons, List.not_mem_nil, or_false] at h
  rcases h with rfl | rfl | rfl | rfl | rfl | rfl | rfl | rfl | rfl | rfl <;>
    first
    | rfl
    | simp [Plan.announce, Plan.benchStep, Plan.compareStep, switchingSteps] at hname

end Plan

/-- The order in which a run benchmarks the two sides of a merge and compares them. -/
structure MergeOrder (branch : String) (calls : List Call) : Prop where
  switching : ∀ name ∈ switchingSteps, Requires calls name ["bench_pr"]
  benching : Requires calls "bench_branch" ("bench_pr" :: switchingSteps)
  comparing : Requires calls "compare" ("bench_pr" :: switchingSteps ++ ["bench_branch"])
  /-- The last word of a command that switches is the branch as it was given. -/
  refs : ∀ c ∈ calls, c.step.name ∈ switchingSteps → c.step.words.getLast? = some branch
  /-- The last two words of the comparison lead from its directory to the two results. -/
  compared : ∀ c ∈ calls, c.step.name = "compare" →
    ∃ directory words baseline candidate, c.step.directory = some directory ∧
      c.step.words = words ++ [baseline, candidate] ∧
      (directory.join (Path.ofString baseline)).isAbsolute = true ∧
      (directory.join (Path.ofString candidate)).isAbsolute = true ∧
      ∀ b ∈ calls,
        (b.step.name = "bench_branch" →
          b.step.artifact = some (directory.join (Path.ofString baseline))) ∧
        (b.step.name = "bench_pr" →
          b.step.artifact = some (directory.join (Path.ofString candidate)))

theorem InOrder.mergeOrder {s : Settings} {benches : Path} {number branch : String}
    (h : InOrder dryRun timeout (Plan.pullRequestSteps s benches number branch) calls)
    (hbenches : benches.isAbsolute = true) : MergeOrder branch calls where
  switching name hname := by
    simp only [switchingSteps, List.mem_cons, List.not_mem_nil, or_false] at hname
    have hkind : ∀ step ∈ Plan.pullRequestSteps s benches number branch,
        step.name ∈ ["bench_pr"] → step.kind = .command :=
      fun step hstep hneed => kind_of_name hstep (by simp_all)
    rcases hname with rfl | rfl | rfl
    · exact h.requires map_name_pullRequestSteps nodup_stepNames (i := 3) rfl (by decide) hkind
    · exact h.requires map_name_pullRequestSteps nodup_stepNames (i := 4) rfl (by decide) hkind
    · exact h.requires map_name_pullRequestSteps nodup_stepNames (i := 5) rfl (by decide) hkind
  benching := by
    refine h.requires map_name_pullRequestSteps nodup_stepNames (i := 7) rfl (by decide) ?_
    exact fun step hstep hneed => kind_of_name hstep (List.mem_append_left _ hneed)
  comparing := by
    refine h.requires map_name_pullRequestSteps nodup_stepNames (i := 9) rfl (by decide) ?_
    exact fun step hstep hneed => kind_of_name hstep hneed
  refs c hc hname := words_of_name (h.mem_steps hc) hname
  compared c hc hname := by
    have hcompare : c.step = Plan.compareStep s benches branch (Plan.pullRequestArtifact number) :=
      eq_of_name (h.mem_steps hc) (by simp [Plan.pullRequestSteps, Plan.compareSteps, Plan.branchArtifact]) hname
    refine ⟨benches, s.compareCommand, branch, Plan.pullRequestArtifact number, by rw [hcompare]; rfl,
      by rw [hcompare]; rfl, Path.isAbsolute_join hbenches _, Path.isAbsolute_join hbenches _,
      fun b hb => ⟨fun hbranch => ?_, fun hnumber => ?_⟩⟩
    · have hstep : b.step = Plan.benchStep s "bench_branch" (benches.join (Path.ofString branch)) :=
        eq_of_name (h.mem_steps hb) (by simp [Plan.pullRequestSteps, Plan.branchArtifact]) hbranch
      rw [hstep]
      rfl
    · have hstep : b.step = Plan.benchStep s "bench_pr"
          (benches.join (Path.ofString (Plan.pullRequestArtifact number))) :=
        eq_of_name (h.mem_steps hb) (by simp [Plan.pullRequestSteps]) hnumber
      rw [hstep]
      rfl

theorem mergeOrder_nil (branch : String) : MergeOrder branch [] where
  switching := by simp [Requires]
  benching := by simp [Requires]
  comparing := by simp [Requires]
  refs := by simp
  compared := by simp

/-! ### The run for a pull request -/

variable {launch : Launcher} {req : RunRequest}

theorem superviseFrom_benchmark (h : req.context.isPullRequest = true)
    (runner : StepRunner (Supervised σ)) (state : σ) (m : Machine) :
    superviseFrom (benchmark launch runner req) state m =
      match runFrom (prepare launch req) m with
      | (.error f, m') => (.error f, state, m')
      | (.ok (p, steps), m') =>
        match superviseFrom (execute runner req.dryRun req.settings.timeout steps) state m' with
        | (.error f, state', m'') => (.error f, state', m'')
        | (.ok o, state', m'') =>
          match runFrom (writeReceipt req.receipt .run req.dryRun req.context req.settings p o)
            m'' with
          | (r, m''') => (r.map fun _ => o, state', m''') := by
  unfold benchmark
  simp only [h, Bool.not_true, Bool.false_eq_true, ↓reduceIte]
  rw [superviseFrom_bind, superviseFrom_lift]
  unfold answer
  rcases runFrom (prepare launch req) m with ⟨f | ⟨p, steps⟩, m'⟩
  · rfl
  · dsimp only
    rw [superviseFrom_bind]
    rcases superviseFrom (execute runner req.dryRun req.settings.timeout steps) state m' with
      ⟨f | o, state', m''⟩
    · rfl
    · dsimp only
      rw [superviseFrom_bind, superviseFrom_lift]
      unfold answer
      rcases runFrom (writeReceipt req.receipt .run req.dryRun req.context req.settings p o) m'' with
        ⟨f | ⟨⟩, m'''⟩ <;> rfl

theorem plan_of_prepare {m m' : Machine} {p : Receipt.Provenance}
    (h : runFrom (prepare launch req) m = (.ok (p, steps), m')) :
    Plan.benchmark m'.environment req.context req.settings = .ok steps := by
  unfold prepare at h
  rw [runFrom_bind_eq_ok_iff] at h
  obtain ⟨_, m₁, -, h⟩ := h
  rw [runFrom_bind_eq_ok_iff] at h
  obtain ⟨p', m₂, -, h⟩ := h
  rw [runFrom_bind_eq_ok_iff] at h
  obtain ⟨_, _, hget, h⟩ := h
  cases hget
  rw [runFrom_bind_eq_ok_iff] at h
  obtain ⟨planned, m₃, hplan, h⟩ := h
  obtain ⟨hplan, rfl⟩ := runFrom_lift_eq_ok_iff.mp hplan
  cases h
  exact hplan

theorem steps_of_prepare {m m' : Machine} {p : Receipt.Provenance} {branch : String}
    (hpr : req.context.isPullRequest = true) (hbranch : req.context.branch = some branch)
    (h : runFrom (prepare launch req) m = (.ok (p, steps), m')) :
    ∃ env benches, req.settings.benchesPath env = .ok benches ∧
      steps = Plan.pullRequestSteps req.settings benches req.context.flag branch := by
  have hplan := plan_of_prepare h
  unfold Plan.benchmark BuildContext.pullRequest? at hplan
  rw [hpr, hbranch] at hplan
  obtain ⟨benches, hbenches, hsteps⟩ := bind_eq_ok_iff.mp hplan
  cases hsteps
  exact ⟨_, benches, hbenches, rfl⟩

/-- Either nothing was called, since the plan could not be made, or the plan took one of its courses
and at most the receipt failed after it. -/
theorem exists_course_benchmark (launch : Launcher) (req : RunRequest)
    (hpr : req.context.isPullRequest = true) {branch : String}
    (hbranch : req.context.branch = some branch) (runner : StepRunner (Supervised σ)) (state : σ)
    (m : Machine) :
    ∃ calls r, Makes (fun runner => benchmark launch runner req) runner state m calls r ∧
      ((calls = [] ∧ ∃ f, r = .error f) ∨
        ∃ env benches planned, req.settings.benchesPath env = .ok benches ∧
          Course req.dryRun req.settings.timeout
            (Plan.pullRequestSteps req.settings benches req.context.flag branch) calls planned ∧
          ∀ o, r = .ok o → planned = .ok o) := by
  cases hprepare : runFrom (prepare launch req) m with
  | mk prepared m' =>
    cases prepared with
    | error f =>
      refine ⟨[], .error f, ⟨state, m', ?_, fun log => ?_⟩, .inl ⟨rfl, f, rfl⟩⟩
      · rw [superviseFrom_benchmark hpr, hprepare]
      · rw [superviseFrom_benchmark hpr, hprepare, List.append_nil]
    | ok planned =>
      obtain ⟨p, steps⟩ := planned
      obtain ⟨env, benches, hbenches, rfl⟩ := steps_of_prepare hpr hbranch hprepare
      obtain ⟨calls, planned, ⟨state', m'', hplain, hrecorded⟩, hcourse⟩ :=
        exists_course runner req.dryRun req.settings.timeout _ state m'
      cases planned with
      | error f =>
        refine ⟨calls, .error f, ⟨state', m'', ?_, fun log => ?_⟩,
          .inr ⟨env, benches, _, hbenches, hcourse, by simp⟩⟩
        · simp only [superviseFrom_benchmark hpr, hprepare, hplain]
        · simp only [superviseFrom_benchmark hpr, hprepare, hrecorded]
      | ok o =>
        cases hreceipt : runFrom (writeReceipt req.receipt .run req.dryRun req.context req.settings p o)
          m'' with
        | mk written m''' =>
          refine ⟨calls, written.map fun _ => o, ⟨state', m''', ?_, fun log => ?_⟩,
            .inr ⟨env, benches, _, hbenches, hcourse, ?_⟩⟩
          · simp only [superviseFrom_benchmark hpr, hprepare, hplain, hreceipt]
          · simp only [superviseFrom_benchmark hpr, hprepare, hrecorded, hreceipt]
          · cases written <;> simp [Except.map]

/-- On the way to a status of zero every step was called. -/
theorem Course.stepNames {s : Settings} {benches : Path} {number branch : String} {o : Outcome}
    (h : Course dryRun timeout (Plan.pullRequestSteps s benches number branch) calls (.ok o))
    (hstatus : o.exitCode = 0) : (calls.map fun c => c.step.name) = Run.stepNames := by
  rcases h.accounts.ending with ⟨c, e, -, -, -, hfails, hcode, -⟩ | ⟨hsteps, -, -, -⟩
  · exact absurd (hcode.symm.trans hstatus) hfails
  · calc (calls.map fun c => c.step.name)
        = (calls.map Call.step).map Step.name := by rw [List.map_map]; rfl
      _ = Run.stepNames := by rw [hsteps, map_name_pullRequestSteps]

/-- However the steps of a pull request turn out, the two sides are benchmarked and compared in order,
each on its own checkout and with its own result. A run that ends with status zero leaves no step
out. -/
theorem benchmark_merge_order {s : Settings} {vars : Settings.Variables}
    {givenFlag givenBranch : Option String} {c : BuildContext} (hroot : s.root.isAbsolute = true)
    (hc : s.context? vars givenFlag givenBranch = .ok c) (hpr : c.isPullRequest = true)
    (launch : Launcher) (dryRun : Bool) (receipt : Option String)
    (runner : StepRunner (Supervised σ)) (state : σ) (m : Machine) :
    ∃ branch calls r, s.branch? vars givenBranch = some branch ∧
      Makes (fun runner => benchmark launch runner ⟨c, s, dryRun, receipt⟩) runner state m calls r ∧
      MergeOrder branch calls ∧
      ∀ o, r = .ok o → o.exitCode = 0 → (calls.map fun c => c.step.name) = stepNames := by
  obtain ⟨branch, htarget, hbranch, -⟩ := Settings.branch_of_context? hc hpr
  obtain ⟨calls, r, hmakes, ⟨rfl, f, rfl⟩ | ⟨env, benches, planned, hbenches, hcourse, hplanned⟩⟩ :=
    exists_course_benchmark launch ⟨c, s, dryRun, receipt⟩ hpr hbranch runner state m
  · exact ⟨branch, [], _, htarget, hmakes, mergeOrder_nil branch, by simp⟩
  · have habsolute := Settings.anchoredBenches_isAbsolute hroot hbenches
    refine ⟨branch, calls, r, htarget, hmakes, hcourse.inOrder.mergeOrder habsolute, ?_⟩
    intro o hr hstatus
    obtain rfl := hplanned o hr
    exact hcourse.stepNames hstatus

/-- A pull request from a branch with a slash, where every step succeeds. -/
theorem benchmark_merge_order_release :
    ∃ branch calls r,
      ({ root := Path.ofString "/work" } : Settings).branch? (fun _ => none) (some "release/1.0") =
        some branch ∧
      Makes (fun runner => benchmark (fun _ files => ⟨.exited 0, [], [], files, 0⟩) runner
        ⟨⟨"7", some "release/1.0", "false"⟩, { root := Path.ofString "/work" }, false, none⟩)
        (fun step _ _ => pure ⟨step, 0, "", "", none⟩) () (.inWork [] []) calls r ∧
      MergeOrder branch calls ∧
      ∀ o, r = .ok o → o.exitCode = 0 → (calls.map fun c => c.step.name) = stepNames :=
  have haccepted : ({ root := Path.ofString "/work" } : Settings).context? (fun _ => none) (some "7")
      (some "release/1.0") = .ok ⟨"7", some "release/1.0", "false"⟩ := rfl
  benchmark_merge_order rfl haccepted (by decide) _ _ _ _ _ _

end Run

end MergeBench
