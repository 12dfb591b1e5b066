import MergeBench.Proofs.Run.Footprint
import MergeBench.Proofs.Refusal

/-!
Runs that are only shown. Nothing is executed and every step succeeds, so that such a run comes to
status zero whatever children would do; only its receipt asks git, and only its receipt is written.
-/

namespace MergeBench

variable {m m' : Machine} {o : Outcome} {f : Fault}

/-- The two launchers do the same for these commands. -/
def Launcher.AgreesOn (commands : List (List String)) (launch launch' : Launcher) : Prop :=
  ∀ l fs, l.words ∈ commands → launch l fs = launch' l fs

variable {launch launch' : Launcher} {commands : List (List String)}

theorem Command.run_congr {c : Command} (h : launch.AgreesOn commands launch') (hc : c.words ∈ commands) :
    run launch c = run launch' c := by
  have hstart (redirect : Option Location) : c.start launch redirect = c.start launch' redirect := by
    unfold start
    simp only [h ⟨c.words, _, _, _, _⟩ _ hc]
  simp only [run, hstart]

/-! ### Activities that do not fail -/

/-- The activity ends well on every machine, with a value that has the property. -/
def Returns {α : Type} (p : α → Prop) (act : Act α) : Prop :=
  ∀ m, ∃ a m', runFrom act m = (.ok a, m') ∧ p a

theorem returns_pure {α : Type} {p : α → Prop} {a : α} (h : p a) : Returns p (pure a : Act α) :=
  fun m => ⟨a, m, rfl, h⟩

theorem Returns.bind {α β : Type} {p : α → Prop} {q : β → Prop} {act : Act α} {next : α → Act β}
    (h : Returns p act) (hnext : ∀ a, Returns q (next a)) : Returns q (act >>= next) := by
  intro m
  obtain ⟨a, m₁, hrun, -⟩ := h m
  obtain ⟨b, m', hrun', hb⟩ := hnext a m₁
  exact ⟨b, m', by rw [runFrom_bind, hrun]; exact hrun', hb⟩

theorem returns_printLine (line : String) : Returns (fun _ => True) (printLine line) :=
  fun _ => ⟨(), _, rfl, trivial⟩

theorem returns_timeStamp : Returns (fun _ => True) timeStamp :=
  fun _ => ⟨_, _, rfl, trivial⟩

namespace Run

/-! ### Steps that are shown -/

theorem returns_announceStep (step : Step) (started : String) :
    Returns (fun e => e.exitCode = 0) (announceStep step started) :=
  (returns_printLine _).bind fun _ => returns_timeStamp.bind fun _ => returns_pure rfl

theorem returns_showStep (step : Step) (started : String) :
    Returns (fun e => e.exitCode = 0) (showStep step started) :=
  (returns_printLine _).bind fun _ => (returns_printLine _).bind fun _ =>
    returns_timeStamp.bind fun _ => returns_pure rfl

theorem runStep_dry (launch launch' : Launcher) (step : Step) (timeout : Int) :
    runStep launch step true timeout = runStep launch' step true timeout := by
  simp only [runStep, ↓reduceIte]

theorem returns_runStep_dry (launch : Launcher) (step : Step) (timeout : Int) :
    Returns (fun e => e.exitCode = 0) (runStep launch step true timeout) := by
  refine returns_timeStamp.bind fun started => ?_
  split
  · exact returns_announceStep step started
  · exact returns_showStep step started

theorem steady_runStep_dry (launch : Launcher) (step : Step) (timeout : Int) :
    Steady Machine.unsaid (runStep launch step true timeout) := by
  refine steady_timeStamp.bind fun started => ?_
  split
  · exact steady_announceStep step started
  · exact steady_showStep step started

theorem execute_dry (launch launch' : Launcher) (timeout : Int) (steps : List Step) :
    (execute (runStep launch) true timeout steps : Act Outcome) =
      execute (runStep launch') true timeout steps := by
  induction steps with
  | nil => simp only [execute]
  | cons step rest ih => simp only [execute, runStep_dry launch launch', ih]

theorem runFrom_execute_dry (launch : Launcher) (timeout : Int) (steps : List Step) (m : Machine) :
    ∃ o m', runFrom (execute (runStep launch) true timeout steps) m = (.ok o, m') ∧ o.exitCode = 0 ∧
      m'.unsaid = m.unsaid := by
  induction steps generalizing m with
  | nil => exact ⟨_, m, rfl, rfl, rfl⟩
  | cons step rest ih =>
    obtain ⟨e, m₁, hstep, hstatus⟩ := returns_runStep_dry launch step timeout m
    have hunsaid := (steady_runStep_dry launch step timeout).view_eq_of_runFrom hstep
    obtain ⟨later, m', hlater, hstatus', hunsaid'⟩ := ih m₁
    have hpass : aborts step e = false := aborts_eq_false_iff.mpr fun _ => hstatus
    refine ⟨precede true step e later, m', ?_, hstatus', hunsaid'.trans hunsaid⟩
    rw [execute, runFrom_bind, hstep]
    simp only [hpass, Bool.false_eq_true, ↓reduceIte]
    rw [runFrom_bind, hlater]
    rfl

/-! ### The receipt of a run that is only shown -/

theorem makesDirectories_of_receiptWrite_error {path : Path} {receipt : Value}
    (h : runFrom (Receipt.write path receipt) m = (.error f, m')) :
    m.SameWorld m' ∨ ∃ written, answer (expandHome path >>= resolve) m = .ok written ∧
      m.MakesDirectories written m' := by
  unfold Receipt.write at h
  rcases runFrom_bind_eq_error_iff.mp h with h | ⟨expanded, m₁, hexpand, h⟩
  · exact .inl ((quiet_expandHome path).sameWorld_of_runFrom h)
  have hexpanded := (quiet_expandHome path).sameWorld_of_runFrom hexpand
  rcases runFrom_bind_eq_error_iff.mp h with h | ⟨written, m₂, hresolve, h⟩
  · exact .inl (hexpanded.trans ((quiet_resolve expanded).sameWorld_of_runFrom h))
  have hresolved := hexpanded.trans ((quiet_resolve expanded).sameWorld_of_runFrom hresolve)
  rcases runFrom_bind_eq_error_iff.mp h with h | ⟨_, _, -, h⟩
  · refine .inr ⟨written, answer_eq_iff.mpr ⟨m₂, ?_⟩,
      .of_sameWorld hresolved (JsonFile.makesDirectories_of_write_error (Path.parent_begins _) h)⟩
    exact runFrom_bind_eq_ok_iff.mpr ⟨expanded, m₁, hexpand, hresolve⟩
  · cases h

theorem makesDirectories_of_writeReceipt_error {receipt : Option String} {mode : Receipt.Mode}
    {dryRun : Bool} {c : BuildContext} {s : Settings} {p : Receipt.Provenance}
    (h : runFrom (writeReceipt receipt mode dryRun c s p o) m = (.error f, m')) :
    m.SameWorld m' ∨ ∃ written, ReceiptAt receipt m written ∧ m.MakesDirectories written m' := by
  cases receipt with
  | none => cases h
  | some path =>
    unfold writeReceipt at h
    rcases runFrom_bind_eq_error_iff.mp h with h | ⟨receipt, m₁, hbuild, h⟩
    · cases h
    · cases hbuild
      rcases runFrom_bind_eq_error_iff.mp h with h | ⟨_, _, -, h⟩
      · refine (makesDirectories_of_receiptWrite_error h).imp_right ?_
        rintro ⟨written, hwritten, hmakes⟩
        exact ⟨written, ⟨path, rfl, hwritten⟩, hmakes⟩
      · cases h

/-! ### Runs that are shown -/

/-- What git is asked for a receipt. -/
def questions (req : RunRequest) : List (List String) :=
  if req.context.isPullRequest && req.receipt.isSome then
    [["--abbrev-ref", "HEAD"], ["HEAD"]].map fun question =>
      [req.settings.git, "-C", req.settings.root.text, "rev-parse"] ++ question
  else []

/-- The receipt that is written in the end. -/
def finalReceipt (req : RunRequest) : Option String :=
  if req.context.isPullRequest then req.receipt else none

/-- A run that starts only these commands and writes only its receipt, which says that the run was only
shown. Without one it succeeds and changes nothing but what has been said. -/
structure Harmless (commands : List (List String)) (receipt : Option String) (mode : Receipt.Mode)
    (c : BuildContext) (s : Settings) (act : Launcher → Act Outcome) (m : Machine) : Prop where
  asks : ∀ launch launch', launch.AgreesOn commands launch' →
    runFrom (act launch) m = runFrom (act launch') m
  succeeds : receipt = none →
    ∃ o m', (∀ launch, runFrom (act launch) m = (.ok o, m')) ∧ o.exitCode = 0 ∧ m'.unsaid = m.unsaid
  returns : ∀ launch o m', launch.LeavesFiles → runFrom (act launch) m = (.ok o, m') →
    o.exitCode = 0 ∧ ∃ m₁, m.Touches (fun _ => False) m₁ ∧
      ((receipt = none ∧ m' = m₁) ∨ ∃ p, Records receipt mode true c s p o m₁ m')
  raises : ∀ launch f m', launch.LeavesFiles → runFrom (act launch) m = (.error f, m') →
    ∃ m₁, m.Touches (fun _ => False) m₁ ∧
      (m' = m₁ ∨ ∃ written, ReceiptAt receipt m₁ written ∧ m₁.MakesDirectories written m')

def showSteps (launch : Launcher) (receipt : Option String) (mode : Receipt.Mode) (c : BuildContext)
    (s : Settings) (p : Receipt.Provenance) (steps : List Step) : Act Outcome := do
  let outcome ← execute (runStep launch) true s.timeout steps
  writeReceipt receipt mode true c s p outcome
  return outcome

section

variable {receipt : Option String} {mode : Receipt.Mode} {c : BuildContext} {s : Settings}
  {p : Receipt.Provenance} {steps : List Step}

theorem runFrom_showSteps_eq_ok
    (h : runFrom (showSteps launch receipt mode c s p steps) m = (.ok o, m')) :
    o.exitCode = 0 ∧ ∃ m₁, m₁.unsaid = m.unsaid ∧
      ((receipt = none ∧ m' = m₁) ∨ Records receipt mode true c s p o m₁ m') := by
  obtain ⟨o', m₁, hexecute, hstatus, hunsaid⟩ := runFrom_execute_dry launch s.timeout steps m
  unfold showSteps at h
  rw [runFrom_bind, hexecute, runFrom_bind_eq_ok_iff] at h
  obtain ⟨_, _, hreceipt, h⟩ := h
  cases h
  exact ⟨hstatus, m₁, hunsaid, records_of_writeReceipt hreceipt⟩

theorem runFrom_showSteps_eq_error
    (h : runFrom (showSteps launch receipt mode c s p steps) m = (.error f, m')) :
    ∃ m₁, m₁.unsaid = m.unsaid ∧
      (m₁.SameWorld m' ∨ ∃ written, ReceiptAt receipt m₁ written ∧ m₁.MakesDirectories written m') := by
  obtain ⟨o', m₁, hexecute, -, hunsaid⟩ := runFrom_execute_dry launch s.timeout steps m
  unfold showSteps at h
  rw [runFrom_bind, hexecute] at h
  rcases runFrom_bind_eq_error_iff.mp h with h | ⟨_, _, -, h⟩
  · exact ⟨m₁, hunsaid, makesDirectories_of_writeReceipt_error h⟩
  · cases h

/-- Steps that are shown do no harm if planning them does none. -/
theorem harmless_of_planned {plan : Launcher → Act (Receipt.Provenance × List Step)}
    (hasks : ∀ launch launch' : Launcher, launch.AgreesOn commands launch' → plan launch = plan launch')
    (htouches : ∀ launch : Launcher, launch.LeavesFiles → Touching (fun _ => False) (plan launch))
    (hplanned : receipt = none →
      ∃ r m₁, (∀ launch, runFrom (plan launch) m = (.ok r, m₁)) ∧ m₁.unsaid = m.unsaid) :
    Harmless commands receipt mode c s
      (fun launch => plan launch >>= fun r => showSteps launch receipt mode c s r.1 r.2) m where
  asks launch launch' h := by
    have hshow (p : Receipt.Provenance) (steps : List Step) :
        showSteps launch receipt mode c s p steps = showSteps launch' receipt mode c s p steps := by
      simp only [showSteps, execute_dry launch launch']
    simp only [hasks launch launch' h, hshow]
  succeeds hnone := by
    obtain ⟨r, m₁, hplan, hunsaid⟩ := hplanned hnone
    obtain ⟨o, m', hexecute, hstatus, hunsaid'⟩ :=
      runFrom_execute_dry failingFetch s.timeout r.2 m₁
    refine ⟨o, m', fun launch => ?_, hstatus, hunsaid'.trans hunsaid⟩
    subst hnone
    rw [runFrom_bind, hplan]
    dsimp only
    rw [showSteps, execute_dry launch failingFetch, runFrom_bind, hexecute]
    rfl
  returns launch o m' hlaunch h := by
    obtain ⟨r, m₁, hplan, h⟩ := runFrom_bind_eq_ok_iff.mp h
    obtain ⟨hstatus, m₂, hunsaid, hreceipt⟩ := runFrom_showSteps_eq_ok h
    have htouches := (htouches launch hlaunch m).touches hplan
    exact ⟨hstatus, m₂, htouches.trans (.of_unsaid hunsaid), hreceipt.imp_right fun h => ⟨_, h⟩⟩
  raises launch f m' hlaunch h := by
    rcases runFrom_bind_eq_error_iff.mp h with h | ⟨r, m₁, hplan, h⟩
    · exact ⟨m', (htouches launch hlaunch m).touches h, .inl rfl⟩
    obtain ⟨m₂, hunsaid, hreceipt⟩ := runFrom_showSteps_eq_error h
    have htouches := ((htouches launch hlaunch m).touches hplan).trans (.of_unsaid hunsaid)
    rcases hreceipt with hsame | hwritten
    · exact ⟨m', htouches.trans (.of_site hsame.site), .inl rfl⟩
    · exact ⟨m₂, htouches, .inr hwritten⟩

end

/-! ### The two modes -/

variable {req : RunRequest}

theorem prepare_congr (h : launch.AgreesOn (questions req) launch')
    (hpr : req.context.isPullRequest = true) : prepare launch req = prepare launch' req := by
  have hprovenance : provenance launch req = provenance launch' req := by
    unfold provenance
    split
    · rfl
    next path hpath =>
      have hquestions : questions req = [["--abbrev-ref", "HEAD"], ["HEAD"]].map fun question =>
          [req.settings.git, "-C", req.settings.root.text, "rev-parse"] ++ question := by
        rw [questions, hpr, hpath]
        rfl
      have hquery (question : List String) (hq : question ∈ [["--abbrev-ref", "HEAD"], ["HEAD"]]) :
          Repository.query launch req.settings.git req.settings.root question =
            Repository.query launch' req.settings.git req.settings.root question := by
        unfold Repository.query
        rw [Command.run_congr h]
        rw [hquestions]
        exact List.mem_map_of_mem hq
      simp only [Repository.branch?, Repository.commit?, hquery ["--abbrev-ref", "HEAD"] (by simp),
        hquery ["HEAD"] (by simp)]
  simp only [prepare, hprovenance]

theorem runFrom_prepare_of_none (hreceipt : req.receipt = none) {steps : List Step}
    (hplan : Plan.benchmark m.environment req.context req.settings = .ok steps) :
    ∃ r m₁, (∀ launch, runFrom (prepare launch req) m = (.ok r, m₁)) ∧ m₁.unsaid = m.unsaid := by
  obtain ⟨m₁, hreport⟩ : ∃ m₁, runFrom (report .info .orchestrator
      s!"benchmarking {req.context.describe}") m = (.ok (), m₁) := ⟨_, rfl⟩
  have hunsaid := (steady_report Machine.unsaid_report _ _ _).view_eq_of_runFrom hreport
  have henvironment : m₁.environment = m.environment := congrArg (fun view => view.1.1) hunsaid
  refine ⟨({}, steps), m₁, fun launch => ?_, hunsaid⟩
  have hprovenance : provenance launch req = pure {} := by
    unfold provenance
    rw [hreceipt]
  unfold prepare
  rw [runFrom_bind, hreport]
  dsimp only
  rw [hprovenance, pure_bind, runFrom_bind, runFrom_get]
  dsimp only
  rw [runFrom_bind, henvironment, hplan, runFrom_lift]
  rfl

theorem Harmless.of_forall {mode : Receipt.Mode} {c : BuildContext} {s : Settings}
    {act : Launcher → Act Outcome} (hstatus : o.exitCode = 0)
    (hunsaid : m'.unsaid = m.unsaid) (h : ∀ launch, runFrom (act launch) m = (.ok o, m')) :
    Harmless commands none mode c s act m where
  asks launch launch' _ := (h launch).trans (h launch').symm
  succeeds _ := ⟨o, m', h, hstatus, hunsaid⟩
  returns launch o' m'' _ hrun := by
    cases (h launch).symm.trans hrun
    exact ⟨hstatus, m', .of_unsaid hunsaid, .inl ⟨rfl, rfl⟩⟩
  raises launch f m'' _ hrun := by cases (h launch).symm.trans hrun

theorem harmless_benchmark (hdry : req.dryRun = true)
    (hplan : ∃ steps, Plan.benchmark m.environment req.context req.settings = .ok steps) :
    Harmless (questions req) (finalReceipt req) .run req.context req.settings
      (fun launch => benchmark launch (runStep launch) req) m := by
  cases hpr : req.context.isPullRequest with
  | false =>
    obtain ⟨m', hreport⟩ : ∃ m', runFrom (report .info .orchestrator
        s!"{req.settings.flagVariable}={req.context.flag}: not a pull request build, nothing to benchmark")
          m = (.ok (), m') := ⟨_, rfl⟩
    have hunsaid := (steady_report Machine.unsaid_report _ _ _).view_eq_of_runFrom hreport
    rw [show finalReceipt req = none by rw [finalReceipt, hpr]; rfl]
    refine .of_forall (o := { exitCode := 0, skipped := true }) rfl hunsaid fun launch => ?_
    unfold benchmark
    simp only [hpr, Bool.not_false, ↓reduceIte]
    change runFrom (report _ _ _ >>= _) m = _
    rw [runFrom_bind, hreport]
    rfl
  | true =>
    obtain ⟨steps, hsteps⟩ := hplan
    have heq (launch : Launcher) : benchmark launch (runStep launch) req =
        prepare launch req >>= fun r =>
          showSteps launch req.receipt .run req.context req.settings r.1 r.2 := by
      unfold benchmark
      simp only [hpr, hdry]
      rfl
    simp only [heq, show finalReceipt req = req.receipt by rw [finalReceipt, hpr]; rfl]
    exact harmless_of_planned (fun launch launch' h => prepare_congr h hpr)
      (fun launch hlaunch => touching_prepare hlaunch req) fun hnone => runFrom_prepare_of_none hnone hsteps

theorem harmless_compare {req : CompareRequest} (hdry : req.dryRun = true)
    (hplan : ∃ steps, Plan.compare m.environment req.settings req.baseline req.candidate = .ok steps) :
    Harmless [] req.receipt .compare ⟨req.candidate, some req.baseline, req.settings.sentinel⟩
      req.settings (fun launch => compare (runStep launch) req) m := by
  have hquiet : Quiet ((fun steps => (({} : Receipt.Provenance), steps)) <$> prepareCompare req) := by
    rw [map_eq_pure_bind]
    exact (CommandLine.quiet_prepareCompare req).bind fun _ => quiet_pure _
  have heq (launch : Launcher) : compare (runStep launch) req =
      ((fun steps => (({} : Receipt.Provenance), steps)) <$> prepareCompare req) >>= fun r =>
        showSteps launch req.receipt .compare
          ⟨req.candidate, some req.baseline, req.settings.sentinel⟩ req.settings r.1 r.2 := by
    unfold compare
    simp only [hdry, bind_map_left]
    rfl
  simp only [heq]
  refine harmless_of_planned (fun _ _ _ => rfl) (fun _ _ m => ?_) fun _ => ?_
  · exact .of_site (hquiet.sameWorld m).site
  · obtain ⟨steps, hsteps⟩ := hplan
    obtain ⟨benches, hbenches, -⟩ := bind_eq_ok_iff.mp hsteps
    have hanswer : answer (prepareCompare req) m =
        .ok (Plan.compareSteps req.settings benches req.baseline req.candidate) := by
      unfold prepareCompare
      rw [answer, runFrom_bind, runFrom_get]
      dsimp only
      rw [runFrom_bind, hbenches, runFrom_lift]
      simp only [hdry]
      rfl
    obtain ⟨m₁, hrun⟩ := answer_eq_iff.mp hanswer
    have hsame := (CommandLine.quiet_prepareCompare req).sameWorld_of_runFrom hrun
    refine ⟨_, m₁, fun _ => by rw [runFrom_map, hanswer, hrun]; rfl, hsame.unsaid⟩

/-- A dry run whose planning succeeds starts nothing but the questions for its receipt, comes to status
zero, and leaves all files as they are but the receipt, which tells of a dry run; without a receipt
nothing can go wrong. -/
theorem dryRun_harmless (m : Machine) :
    (∀ req : RunRequest, req.dryRun = true →
      (∃ steps, Plan.benchmark m.environment req.context req.settings = .ok steps) →
      Harmless (questions req) (finalReceipt req) .run req.context req.settings
        (fun launch => benchmark launch (runStep launch) req) m) ∧
    ∀ req : CompareRequest, req.dryRun = true →
      (∃ steps, Plan.compare m.environment req.settings req.baseline req.candidate = .ok steps) →
      Harmless [] req.receipt .compare ⟨req.candidate, some req.baseline, req.settings.sentinel⟩
        req.settings (fun launch => compare (runStep launch) req) m :=
  ⟨fun _ => harmless_benchmark, fun _ => harmless_compare⟩

theorem dryRun_harmless_in_work :
    let req := requestInWork true "out/receipt.json"
    let again : CompareRequest := ⟨req.settings, "main", "PR_7", true, none⟩
    let m := Machine.inWork [] []
    req.dryRun = true ∧ again.dryRun = true ∧
      (∃ steps, Plan.benchmark m.environment req.context req.settings = .ok steps) ∧
      (∃ steps, Plan.compare m.environment again.settings again.baseline again.candidate = .ok steps) ∧
      Harmless (questions req) (finalReceipt req) .run req.context req.settings
        (fun launch => benchmark launch (runStep launch) req) m ∧
      Harmless [] again.receipt .compare ⟨again.candidate, some again.baseline, again.settings.sentinel⟩
        again.settings (fun launch => compare (runStep launch) again) m := by
  intro req again m
  have hplan : ∃ steps, Plan.benchmark m.environment req.context req.settings = .ok steps :=
    errorOf_eq_none_iff.mp (by decide +kernel)
  have hagain : ∃ steps, Plan.compare m.environment again.settings again.baseline again.candidate =
      .ok steps := errorOf_eq_none_iff.mp (by decide +kernel)
  exact ⟨rfl, rfl, hplan, hagain, (dryRun_harmless m).1 req rfl hplan,
    (dryRun_harmless m).2 again rfl hagain⟩

/-- A dry run writes its receipt all the same. -/
theorem not_dryRun_unchanged :
    ¬∀ (launch : Launcher) (req : RunRequest) (m m' : Machine) (o : Outcome), req.dryRun = true →
      (∃ steps, Plan.benchmark m.environment req.context req.settings = .ok steps) →
      runFrom (benchmark launch (runStep launch) req) m = (.ok o, m') → m'.files = m.files := by
  intro h
  obtain ⟨o, hrun⟩ : ∃ o, runFrom (benchmark failingFetch (runStep failingFetch)
      (requestInWork true "receipt.json")) (.inWork [] []) = (.ok o, _) :=
    exists_runFrom_of_isOk (by decide +kernel)
  have hchanged : (runFrom (benchmark failingFetch (runStep failingFetch)
      (requestInWork true "receipt.json")) (.inWork [] [])).2.files ≠ (Machine.inWork [] []).files := by
    decide +kernel
  exact hchanged (h _ _ _ _ o rfl (errorOf_eq_none_iff.mp (by decide +kernel)) hrun)

end Run

end MergeBench
