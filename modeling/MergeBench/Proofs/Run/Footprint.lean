import MergeBench.Proofs.Receipt.Deposit
import MergeBench.Proofs.Run.Passage

/-!
What a run leaves behind. Up to the receipt it touches the outputs of the commands that were executed;
the receipt, if there is one, is put where its path leads. No path is lost on the way, unless the
receipt takes the place of a link.
-/

namespace MergeBench

variable {m m' : Machine} {o : Outcome}

namespace Run

variable {launch : Launcher} {runner : StepRunner Act} {req : RunRequest} {benches : Path}

def pullRequestPath (req : RunRequest) (benches : Path) : Path :=
  benches.join (Path.ofString (Plan.pullRequestArtifact req.context.flag))

def branchPath (req : RunRequest) (benches : Path) : Path :=
  benches.join (Path.ofString (Plan.branchArtifact (BuildContext.optionText req.context.branch)))

/-- A receipt is asked for, and on this machine it goes to this path. -/
def ReceiptAt (receipt : Option String) (m : Machine) (written : Path) : Prop :=
  ∃ path, receipt = some path ∧ answer (expandHome (Path.ofString path) >>= resolve) m = .ok written

/-- Between the two machines the receipt that tells of this outcome was put where its path leads. -/
def Records (receipt : Option String) (mode : Receipt.Mode) (dryRun : Bool) (c : BuildContext)
    (s : Settings) (p : Receipt.Provenance) (o : Outcome) (m m' : Machine) : Prop :=
  ∃ written origin text, ReceiptAt receipt m written ∧
    Json.document (Receipt.value origin mode.name dryRun c s p o) = .ok text ∧
    m.Deposits written (Text.encode text) m'

/-- What a run has left behind on its last machine; `m₁` is the one before the receipt. -/
structure Footprint (req : RunRequest) (benches : Path) (o : Outcome) (m m₁ m' : Machine) : Prop where
  outputs : m.Touches (Outputs m o) m₁
  unwritten : req.receipt = none → m' = m₁
  written : req.receipt ≠ none → ∃ p, Records req.receipt .run false req.context req.settings p o m₁ m'
  /-- A path that led to an entry, links at its end followed or not, leads to it still, but for
  exchanged links. -/
  resumed : ∀ follow q l e, m.files.find follow m.directory q = .ok ⟨l, some e⟩ →
    FileSystem.Resumed m.files m'.files l e (m'.files.find follow m.directory q)
  /-- Only the link that the receipt finds at the end of its path is exchanged. -/
  exchanged : ∀ l, m.files.Exchanges m'.files l → ∃ written m₂ target,
    ReceiptAt req.receipt m₁ written ∧ m₁.MakesDirectories written m₂ ∧
    m₂.files.find false m₂.directory written.text = .ok ⟨l, some (.link target)⟩
  /-- Where the run broke off before the second benchmark, the result for the branch is only there as
  part of the way to the other one. -/
  broken : req.receipt = none → (∃ name ∈ "bench_pr" :: switchingSteps, o.failedStep = some name) →
    ∀ l e, m'.files.LeadsTo m.directory (branchPath req benches) l e →
      m'.files.get? l ≠ m.files.get? l →
      ∃ q e', q.Begins (pullRequestPath req benches) ∧ m'.files.LeadsTo m.directory q l e'

/-! ### Before the second benchmark -/

theorem mem_takeWhile_of_append {α : Type} [DecidableEq α] {before after : List α} {a b : α}
    (hnodup : (before ++ a :: after).Nodup) (hb : b ∈ before) :
    b ∈ (before ++ a :: after).takeWhile (· ≠ a) := by
  have hne : ∀ c ∈ before, (decide (c ≠ a)) = true := by
    rintro c hc
    rw [List.nodup_append] at hnodup
    simpa using hnodup.2.2 c hc a List.mem_cons_self
  rw [List.takeWhile_append_of_pos hne]
  exact List.mem_append_left _ hb

theorem eq_pullRequestPath_of_outputs {dryRun : Bool} {timeout : Int} {m₁ : Machine} {name : String}
    {p : Path} (hrunner : Genuine runner)
    (h : Passage runner dryRun timeout (Plan.pullRequestSteps req.settings benches req.context.flag
      (BuildContext.optionText req.context.branch)) m o m')
    (hname : name ∈ "bench_pr" :: switchingSteps) (hfailed : o.failedStep = some name)
    (hp : Outputs m₁ o p) : p = pullRequestPath req benches := by
  obtain ⟨e, he, -, hartifact, -⟩ := hp
  rcases h.executed hrunner with ⟨-, hnone, -⟩ | ⟨before, step, after, hplan, hsteps, hstep, -⟩
  · rw [hfailed] at hnone
    cases hnone
  -- the names that the run can have broken off at come before that of the second benchmark
  have hnot : e.step.name ≠ "bench_branch" := by
    intro hbranch
    have hnames : stepNames = before.map Step.name ++ name :: after.map Step.name := by
      rw [← map_name_pullRequestSteps, hplan, List.map_append, List.map_cons,
        Option.some.inj (hstep.symm.trans hfailed)]
    have hmem : e.step ∈ before ++ [step] := hsteps ▸ List.mem_map_of_mem he
    have hearly : "bench_branch" ∈ stepNames.takeWhile (· ≠ name) ++ [name] := by
      rw [← hbranch, hnames]
      rcases List.mem_append.mp hmem with hbefore | hlast
      · exact List.mem_append_left _ (mem_takeWhile_of_append (hnames ▸ nodup_stepNames)
          (List.mem_map_of_mem hbefore))
      · rw [List.mem_singleton.mp hlast, Option.some.inj (hstep.symm.trans hfailed)]
        exact List.mem_append_right _ (List.mem_singleton_self name)
    have hlate : ∀ name ∈ "bench_pr" :: switchingSteps,
        "bench_branch" ∉ stepNames.takeWhile (· ≠ name) ++ [name] := by decide
    exact hlate name hname hearly
  rcases eq_benchStep_of_artifact (h.mem_steps hrunner he) hartifact with hbench | hbench
  · rw [hbench] at hartifact
    exact (Option.some.inj hartifact).symm
  · exact absurd (congrArg Step.name hbench) hnot

/-! ### The receipt, and the whole run -/

theorem records_of_writeReceipt {receipt : Option String} {mode : Receipt.Mode} {dryRun : Bool}
    {c : BuildContext} {s : Settings} {p : Receipt.Provenance}
    (h : runFrom (writeReceipt receipt mode dryRun c s p o) m = (.ok (), m')) :
    (receipt = none ∧ m' = m) ∨ Records receipt mode dryRun c s p o m m' := by
  cases receipt with
  | none =>
    cases h
    exact .inl ⟨rfl, rfl⟩
  | some path =>
    obtain ⟨origin, written, m₁, m₂, hwritten, hbefore, hwrite, hafter⟩ := runFrom_writeReceipt_eq_ok h
    obtain ⟨text, hdocument, hdeposits⟩ := JsonFile.deposits_of_write hwrite
    exact .inr ⟨written, origin, text, ⟨path, rfl, hwritten⟩, hdocument,
      .of_sameWorld hbefore hdeposits hafter⟩

theorem touches_of_untilReceipt {p : Receipt.Provenance} (hlaunch : launch.LeavesFiles)
    (hrunner : Genuine runner) (hpr : req.context.isPullRequest = true) (hdry : req.dryRun = false)
    (h : runFrom (untilReceipt launch runner req) m = (.ok (p, o), m')) :
    m.Touches (Outputs m o) m' := by
  obtain ⟨benches, m₁, -, hnothing, hpassage⟩ := passage_of_untilReceipt hlaunch hpr h
  rw [hdry] at hpassage
  refine (hnothing.mono nofun).trans ?_
  refine (hpassage.touches hrunner (outputIn_pullRequestSteps _ _ _ _)).mono ?_
  rintro q ⟨e, he, hkind, hartifact, hplace⟩
  exact ⟨e, he, hkind, hartifact, fun d hd => (hplace d hd).of_touches (hnothing.symm fun _ => id)⟩

/-- A run for a pull request that returns has touched the outputs of its commands and put its receipt
where it belongs, and has left everything else as it was. -/
theorem footprint_of_benchmark (hlaunch : launch.LeavesFiles) (hrunner : Genuine runner)
    (hpr : req.context.isPullRequest = true) (hdry : req.dryRun = false)
    (hrun : runFrom (benchmark launch runner req) m = (.ok o, m')) :
    ∃ benches p m₁, req.settings.benchesPath m.environment = .ok benches ∧
      runFrom (untilReceipt launch runner req) m = (.ok (p, o), m₁) ∧
      Footprint req benches o m m₁ m' := by
  obtain ⟨p, m₁, huntil, hreceipt⟩ := runFrom_benchmark_eq_ok hpr hrun
  have houtputs := touches_of_untilReceipt hlaunch hrunner hpr hdry huntil
  obtain ⟨benches, m₂, hbenches, -, hpassage⟩ := passage_of_untilReceipt hlaunch hpr huntil
  refine ⟨benches, p, m₁, hbenches, huntil, ?_⟩
  rw [hdry] at hreceipt
  rcases records_of_writeReceipt hreceipt with ⟨hnone, rfl⟩ | hrecords
  · exact {
      outputs := houtputs
      unwritten := fun _ => rfl
      written := fun hsome => absurd hnone hsome
      resumed := fun follow q l e h => FileSystem.find_of_persists h houtputs.files.grows.persists
      exchanged := fun l hl => absurd hl (houtputs.files.grows.not_exchanges l)
      broken := by
        rintro - ⟨name, hname, hfailed⟩ l e - hchanged
        exact houtputs.files.leadsTo_of_ne
          (fun q => eq_pullRequestPath_of_outputs hrunner hpassage hname hfailed) hchanged }
  · obtain ⟨written, _, _, hwritten, _, hdeposits⟩ := id hrecords
    obtain ⟨path, hsome, -⟩ := id hwritten
    have hnone : req.receipt ≠ none := by simp [hsome]
    exact {
      outputs := houtputs
      unwritten := fun h => absurd h hnone
      written := fun _ => ⟨p, hrecords⟩
      resumed := fun follow q l e h =>
        FileSystem.find_of_persists h (houtputs.files.grows.trans_persists hdeposits.persists)
      exchanged := by
        rintro l ⟨target, content, executable, hlink, hfile⟩
        obtain ⟨m₃, target, hmakes, hfound⟩ := hdeposits.link_of_exchanges
          ⟨target, content, executable, houtputs.files.grows.get?_link hlink, hfile⟩
        exact ⟨written, m₃, target, hwritten, hmakes, hfound⟩
      broken := fun h => absurd h hnone }

theorem leavesFiles_failingFetch : failingFetch.LeavesFiles :=
  fun _ _ => rfl

theorem genuine_runStep (hlaunch : launch.LeavesFiles) : Genuine (runStep launch) :=
  fun _ _ _ => ⟨launch, hlaunch, rfl⟩

theorem footprint_of_failing_fetch :
    let req := requestInWork false "out/receipt.json"
    let run := runFrom (benchmark failingFetch (runStep failingFetch) req) (.inWork [] [])
    failingFetch.LeavesFiles ∧ Genuine (runStep failingFetch) ∧ req.context.isPullRequest = true ∧
      req.dryRun = false ∧ ∃ o, run = (.ok o, run.2) ∧
      ∃ benches p m₁, req.settings.benchesPath (Machine.inWork [] []).environment = .ok benches ∧
        runFrom (untilReceipt failingFetch (runStep failingFetch) req) (.inWork [] []) = (.ok (p, o), m₁) ∧
        Footprint req benches o (.inWork [] []) m₁ run.2 := by
  intro req run
  obtain ⟨o, hrun⟩ : ∃ o, run = (.ok o, run.2) := exists_runFrom_of_isOk (by decide +kernel)
  have hgenuine := genuine_runStep leavesFiles_failingFetch
  exact ⟨leavesFiles_failingFetch, hgenuine, rfl, rfl, o, hrun,
    footprint_of_benchmark leavesFiles_failingFetch hgenuine rfl rfl hrun⟩

/-- A machine with a file below `d`, the link `a` to `d`, and a link to itself. -/
def knotted : Machine :=
  { Machine.inWork [] [] with
    files := ⟨[(["work"], .directory), (["work", "d"], .directory), (["work", "d", "x"], .file [] false),
      (["work", "a"], .link "d"), (["work", "loop"], .link "loop")]⟩ }

/-- Behind the link to itself the path of the receipt is not resolved any further: the receipt takes the
place of the link `a`, and the path `a/x` is lost. -/
theorem not_footprint_knotted :
    ¬∀ (launch : Launcher) (req : RunRequest) (m m' : Machine) (o : Outcome), launch.LeavesFiles →
      req.context.isPullRequest = true → req.dryRun = false →
      runFrom (benchmark launch (runStep launch) req) m = (.ok o, m') →
      ∀ q l e, m.files.LeadsTo m.directory q l e → ∃ l' e', m'.files.LeadsTo m'.directory q l' e' := by
  intro h
  obtain ⟨o, hrun⟩ : ∃ o, runFrom (benchmark failingFetch (runStep failingFetch)
      (requestInWork false "loop/../a")) knotted = (.ok o, _) :=
    exists_runFrom_of_isOk (by decide +kernel)
  have hbefore : knotted.files.LeadsTo knotted.directory (Path.ofString "a/x") ["work", "d", "x"]
      (.file [] false) := yields_iff.mp (by decide +kernel)
  obtain ⟨l, e, hafter⟩ := h _ _ _ _ o leavesFiles_failingFetch rfl rfl hrun _ _ _ hbefore
  have hlost : errorOf ((runFrom (benchmark failingFetch (runStep failingFetch)
      (requestInWork false "loop/../a")) knotted).2.files.find true ["work"] "a/x") =
        some .notDirectory := by decide +kernel
  rw [errorOf_eq_some_iff] at hlost
  have hdirectory : (runFrom (benchmark failingFetch (runStep failingFetch)
      (requestInWork false "loop/../a")) knotted).2.directory = ["work"] := by decide +kernel
  rw [FileSystem.LeadsTo, hdirectory, show (Path.ofString "a/x").text = "a/x" by decide, hlost] at hafter
  cases hafter

end Run

end MergeBench
