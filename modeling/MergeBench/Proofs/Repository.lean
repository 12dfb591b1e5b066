import MergeBench.Proofs.Command.Status

/-!
What is told about a checkout. The two questions about it are commands whose output is captured, so that
an answer is a function of the child that was asked: nothing is told of a child that fails or is killed,
but a child whose start is refused for a rare reason, or that prints what is no text, ends the run.
-/

namespace MergeBench

variable {m : Machine}

/-- No variable holds a NUL, as none of a process does. -/
def Environment.Passable (env : Environment) : Prop :=
  ∀ name value, (name, value) ∈ env.bindings → hasNull name = false ∧ hasNull value = false

/-- What became of the child can be told: its start was refused for a reason that is reported, or it
was stopped, or all that it printed up to its own end is text. -/
def ChildRun.Heard (child : ChildRun) : Prop :=
  match child.ending with
  | .refused e => e.cause ∈ [.noEntry, .accessDenied, .notPermitted]
  | .overran => True
  | .exited _ | .signalled _ =>
    (∃ text, Text.decodeText child.stdout = .ok text) ∧ ∃ text, Text.decodeText child.stderr = .ok text

/-- Whether the rest gives a value does not depend here on the value that it goes on with. -/
theorem exists_answer_bind_iff {α β : Type} {act : Act α} {next : α → Act β} {p : Prop}
    (h : ∀ a m', runFrom act m = (.ok a, m') → ((∃ b, answer (next a) m' = .ok b) ↔ p)) :
    (∃ b, answer (act >>= next) m = .ok b) ↔ (∃ a, answer act m = .ok a) ∧ p := by
  unfold answer at h ⊢
  rw [runFrom_bind]
  rcases hrun : runFrom act m with ⟨f | a, m'⟩
  · simp
  · simp [h a m' hrun]

namespace Command

variable {launch : Launcher} {c : Command} {redirect : Option Location} {child : ChildRun} {l : Launch}

theorem childVariables_eq {env : Environment} (hbindings : c.bindings = none) (henv : env.Passable) :
    c.childVariables env =
      if c.words.any hasNull then .error .nullCharacter else .ok env.bindings := by
  have hnone : (env.bindings.any fun binding => hasNull binding.1 || hasNull binding.2) = false := by
    rw [List.any_eq_false]
    intro binding hmem
    obtain ⟨hname, hvalue⟩ := henv binding.1 binding.2 hmem
    simp [hname, hvalue]
  unfold childVariables
  rw [hbindings]
  change (if (c.words.any hasNull ||
      env.bindings.any fun binding => hasNull binding.1 || hasNull binding.2) = true then
    Except.error Fault.nullCharacter else Except.ok env.bindings) = _
  rw [hnone, Bool.or_false]

theorem runFrom_attempt (hasks : c.Asks redirect m l) (hwaits : c.Waits redirect) :
    runFrom (attempt launch c redirect) m =
      runFrom (c.conclude redirect (launch l m.files))
        { m with files := (launch l m.files).files, clock := m.clock + (launch l m.files).elapsed } := by
  rw [attempt, runFrom_bind, runFrom_start hasks, await_eq_of_waits hwaits]
  rfl

theorem exists_outcome_iff (hcaptured : c.isCaptured redirect = true) :
    (∃ r, c.outcome redirect child = .ok r) ↔ child.Heard := by
  have hown (code : Int) (failure : Option Failure) :
      (∃ r, c.ownResult redirect child code failure = .ok r) ↔
        (∃ text, Text.decodeText child.stdout = .ok text) ∧
          ∃ text, Text.decodeText child.stderr = .ok text := by
    rw [ownResult, captured, hcaptured]
    cases Text.decodeText child.stdout with
    | error e => simp [bind, Except.bind, Except.map]
    | ok stdout =>
      cases Text.decodeText child.stderr with
      | error e => simp [bind, Except.bind, Except.map]
      | ok stderr => exact ⟨fun _ => ⟨⟨_, rfl⟩, _, rfl⟩, fun _ => ⟨_, rfl⟩⟩
  unfold outcome ChildRun.Heard
  cases child.ending with
  | refused e =>
    unfold refusal
    cases hcause : e.cause <;> simp [hcause]
  | overran => simp
  | exited status | signalled number => exact hown _ _

end Command

namespace Repository

variable {git : String} {root : Path} {words : List String} {launch : Launcher}

def question (git : String) (root : Path) (words : List String) : Command :=
  { words := [git, "-C", root.text, "rev-parse"] ++ words, limit := some (.whole 20),
    showErrors := false }

def branchWords : List String := ["--abbrev-ref", "HEAD"]

def commitWords : List String := ["HEAD"]

/-- What the system is asked to start. -/
def asked (git : String) (root : Path) (words : List String) (m : Machine) : Launch :=
  ⟨(question git root words).words, m.directory, m.environment.bindings, some 20000000, none⟩

/-- The child that answers the question, if it can be asked. -/
def childOf (launch : Launcher) (git : String) (root : Path) (words : List String) (m : Machine) :
    ChildRun :=
  launch (asked git root words m) m.files

/-- What a result tells. -/
def told (r : Command.Result) : Option String :=
  if r.exitCode == 0 && Text.strip r.stdout != "" then some (Text.strip r.stdout) else none

/-- The child succeeded and printed this text, blanks around it apart. -/
structure Says (child : ChildRun) (text : String) : Prop where
  ending : child.ending = .exited 0
  printed : ∃ printed, Text.decodeText child.stdout = .ok printed ∧ Text.strip printed = text
  nonempty : text ≠ ""

theorem query_eq (launch : Launcher) (git : String) (root : Path) (words : List String) :
    query launch git root words = told <$> Command.run launch (question git root words) :=
  rfl

theorem waits_question : (question git root words).Waits none where
  limit := by
    rintro limit ⟨⟩
    rfl
  some_time := by
    change Duration.microseconds? (.whole 20) ≠ some 0
    decide

theorem childVariables_question (hgit : hasNull git = false) (henv : m.environment.Passable)
    (hwords : words.any hasNull = false) :
    (question git root words).childVariables m.environment =
      if hasNull root.text then .error .nullCharacter else .ok m.environment.bindings := by
  rw [Command.childVariables_eq rfl henv]
  simp [question, hgit, hwords, show hasNull "-C" = false by decide,
    show hasNull "rev-parse" = false by decide]

theorem opens_question : (question git root words).Opens m none m :=
  .nothing rfl

theorem hasPlace_question : (question git root words).HasPlace m :=
  nofun

theorem asks_question (hgit : hasNull git = false) (henv : m.environment.Passable)
    (hwords : words.any hasNull = false) (hroot : hasNull root.text = false) :
    (question git root words).Asks none m (asked git root words m) := by
  refine .mk (by simp [question]) (.here rfl) ?_
  rw [childVariables_question hgit henv hwords, if_neg (by simp [hroot])]

/-! ### One question -/

theorem runFrom_run_question (hgit : hasNull git = false) (henv : m.environment.Passable)
    (hwords : words.any hasNull = false) (hroot : hasNull root.text = false) :
    let child := childOf launch git root words m
    runFrom (Command.run launch (question git root words)) m =
      runFrom ((question git root words).conclude none child)
        { m with files := child.files, clock := m.clock + child.elapsed } := by
  rw [Command.run_of_opens hasPlace_question opens_question,
    Command.runFrom_attempt (asks_question hgit henv hwords hroot) waits_question]
  rfl

theorem answer_query (hgit : hasNull git = false) (henv : m.environment.Passable)
    (hwords : words.any hasNull = false) :
    answer (query launch git root words) m =
      if hasNull root.text then .error .nullCharacter
      else ((question git root words).outcome none (childOf launch git root words m)).map told := by
  rw [query_eq, answer, runFrom_map]
  dsimp only
  cases hroot : hasNull root.text with
  | false =>
    rw [answer, runFrom_run_question hgit henv hwords hroot]
    exact congrArg _ (Command.answer_conclude ..)
  | true =>
    have hvariables : (question git root words).childVariables m.environment =
        .error .nullCharacter := by
      rw [childVariables_question hgit henv hwords, if_pos hroot]
    rw [answer, Command.run_of_opens hasPlace_question opens_question, Command.attempt, Command.start,
      if_neg (by simp [question]), runFrom_bind, runFrom_bind, runFrom_get]
    dsimp only
    rw [runFrom_bind, hvariables]
    rfl

/-- Only the child that was asked has changed files. -/
theorem site_query (hgit : hasNull git = false) (henv : m.environment.Passable)
    (hwords : words.any hasNull = false) (hroot : hasNull root.text = false) :
    (runFrom (query launch git root words) m).2.site =
      Machine.site { m with files := (childOf launch git root words m).files } := by
  rw [query_eq, runFrom_map, runFrom_run_question hgit henv hwords hroot]
  rcases hconclude : runFrom ((question git root words).conclude none _) _ with ⟨r, m'⟩
  exact (Command.sameWorld_of_conclude hconclude).site

theorem exists_answer_query_iff (hgit : hasNull git = false) (henv : m.environment.Passable)
    (hwords : words.any hasNull = false) :
    (∃ r, answer (query launch git root words) m = .ok r) ↔
      hasNull root.text = false ∧ (childOf launch git root words m).Heard := by
  have houtcome : (∃ r, (question git root words).outcome none
      (childOf launch git root words m) = .ok r) ↔ (childOf launch git root words m).Heard :=
    Command.exists_outcome_iff rfl
  rw [answer_query hgit henv hwords, ← houtcome]
  cases hasNull root.text with
  | true => simp
  | false =>
    cases (question git root words).outcome none (childOf launch git root words m) <;>
      simp [Except.map]

theorem told_eq_some_iff {r : Command.Result} {text : String} :
    told r = some text ↔ r.exitCode = 0 ∧ Text.strip r.stdout = text ∧ text ≠ "" := by
  unfold told
  split
  next h =>
    rw [Bool.and_eq_true, beq_iff_eq, bne_iff_ne] at h
    rw [Option.some.injEq]
    exact ⟨fun heq => ⟨h.1, heq, heq ▸ h.2⟩, fun h => h.2.1⟩
  next h =>
    rw [Bool.and_eq_true, beq_iff_eq, bne_iff_ne] at h
    exact ⟨nofun, fun ⟨hcode, heq, hne⟩ => absurd ⟨hcode, heq ▸ hne⟩ h⟩

theorem told_failed (c : Command) (elapsed : Nat) (f : Command.Failure) (text : String) :
    told (c.failed elapsed f) ≠ some text := by
  rw [Ne, told_eq_some_iff]
  rintro ⟨-, hstrip, hne⟩
  exact hne hstrip.symm

theorem told_ownResult_iff {child : ChildRun} {code : Int} {failure : Option Command.Failure}
    {r : Command.Result} (hcode : code = 0 ↔ child.ending = .exited 0)
    (h : (question git root words).ownResult none child code failure = .ok r) (text : String) :
    told r = some text ↔ Says child text := by
  obtain ⟨stdout, stderr, hcaptured, rfl⟩ := Command.ownResult_eq_ok_iff.mp h
  obtain ⟨out, hout, hrest⟩ := bind_eq_ok_iff.mp hcaptured
  obtain ⟨err, -, hpair⟩ := bind_eq_ok_iff.mp hrest
  cases hpair
  rw [told_eq_some_iff, shellStatus_eq_zero_iff, hcode]
  constructor
  · rintro ⟨hending, hstrip, hne⟩
    exact ⟨hending, ⟨stdout, hout, hstrip⟩, hne⟩
  · rintro ⟨hending, ⟨printed, hprinted, hstrip⟩, hne⟩
    cases hout.symm.trans hprinted
    exact ⟨hending, hstrip, hne⟩

/-- What is told is what the child said. -/
theorem told_outcome_iff {child : ChildRun} {r : Command.Result}
    (hsignal : ∀ number, child.ending = .signalled number → 1 ≤ number)
    (h : (question git root words).outcome none child = .ok r) (text : String) :
    told r = some text ↔ Says child text := by
  have hsilent (hending : child.ending ≠ .exited 0) : ¬Says child text :=
    fun hsays => hending hsays.ending
  unfold Command.outcome at h
  cases hending : child.ending with
  | refused e =>
    rw [hending] at h hsilent
    obtain ⟨f, rfl, -⟩ := Command.refusal_eq_ok h
    exact iff_of_false (told_failed _ _ _ _) (hsilent nofun)
  | overran =>
    rw [hending] at h hsilent
    cases h
    exact iff_of_false (told_failed _ _ _ _) (hsilent nofun)
  | exited status =>
    rw [hending] at h
    exact told_ownResult_iff (by rw [hending]; simp) h text
  | signalled number =>
    rw [hending] at h
    have hpositive := hsignal number hending
    exact told_ownResult_iff (by rw [hending]; simp; omega) h text

theorem answer_query_eq_some_iff (hlaunch : launch.Conventional) (hgit : hasNull git = false)
    (henv : m.environment.Passable) (hwords : words.any hasNull = false) {r : Option String}
    (h : answer (query launch git root words) m = .ok r) (text : String) :
    r = some text ↔ Says (childOf launch git root words m) text := by
  obtain ⟨hroot, -⟩ := (exists_answer_query_iff hgit henv hwords).mp ⟨r, h⟩
  rw [answer_query hgit henv hwords, if_neg (by simp [hroot])] at h
  cases houtcome : (question git root words).outcome none (childOf launch git root words m) with
  | error f =>
    rw [houtcome] at h
    cases h
  | ok result =>
    rw [houtcome] at h
    cases h
    exact told_outcome_iff (fun number hending => (hlaunch.signal _ _ _ hending).1) houtcome text

/-! ### Both questions -/

theorem branch?_eq (launch : Launcher) (git : String) (root : Path) :
    branch? launch git root = Option.filter (· != "HEAD") <$> query launch git root branchWords :=
  rfl

theorem exists_answer_branch?_iff (hgit : hasNull git = false) (henv : m.environment.Passable) :
    (∃ r, answer (branch? launch git root) m = .ok r) ↔
      hasNull root.text = false ∧ (childOf launch git root branchWords m).Heard := by
  rw [← exists_answer_query_iff hgit henv (by decide), branch?_eq, answer, runFrom_map]
  cases answer (query launch git root branchWords) m <;> simp [Except.map]

/-- A checkout without a branch says `HEAD`, which is no name. -/
theorem answer_branch?_eq_some_iff (hlaunch : launch.Conventional) (hgit : hasNull git = false)
    (henv : m.environment.Passable) {r : Option String}
    (h : answer (branch? launch git root) m = .ok r) (text : String) :
    r = some text ↔ Says (childOf launch git root branchWords m) text ∧ text ≠ "HEAD" := by
  rw [branch?_eq, answer, runFrom_map] at h
  cases hquery : answer (query launch git root branchWords) m with
  | error f =>
    rw [hquery] at h
    cases h
  | ok told =>
    rw [hquery] at h
    cases h
    rw [← answer_query_eq_some_iff hlaunch hgit henv (by decide) hquery, Option.filter_eq_some_iff,
      bne_iff_ne]

/-! ### A run with a receipt -/

theorem childOf_eq_of_site {m' : Machine} (h : m'.site = m.site) :
    childOf launch git root words m' = childOf launch git root words m := by
  have henvironment : m'.environment = m.environment := congrArg (fun site => site.1.1) h
  have hdirectory : m'.directory = m.directory := congrArg (fun site => site.1.2.1) h
  have hfiles : m'.files = m.files := congrArg (fun site => site.2) h
  rw [childOf, asked, henvironment, hdirectory, hfiles]
  rfl

/-- The child of the second question, which finds the files as the first one left them. -/
def secondChild (launch : Launcher) (git : String) (root : Path) (m : Machine) : ChildRun :=
  childOf launch git root commitWords
    { m with files := (childOf launch git root branchWords m).files }

theorem secondChild_eq_of_site {m' : Machine} (h : m'.site = m.site) :
    secondChild launch git root m' = secondChild launch git root m := by
  refine childOf_eq_of_site ?_
  rw [childOf_eq_of_site h]
  exact Prod.ext (Prod.mk.inj h).1 rfl

theorem exists_answer_provenance_iff {req : RunRequest} {path : String}
    (hreceipt : req.receipt = some path) (hgit : hasNull req.settings.git = false)
    (henv : m.environment.Passable) :
    (∃ p, answer (Run.provenance launch req) m = .ok p) ↔ hasNull req.settings.root.text = false ∧
      (childOf launch req.settings.git req.settings.root branchWords m).Heard ∧
      (secondChild launch req.settings.git req.settings.root m).Heard := by
  rw [Run.provenance, hreceipt, ← and_assoc, ← exists_answer_branch?_iff hgit henv]
  refine exists_answer_bind_iff fun branch m₁ hbranch => ?_
  obtain ⟨hroot, -⟩ := (exists_answer_branch?_iff hgit henv).mp ⟨_, answer_eq_iff.mpr ⟨_, hbranch⟩⟩
  have hsite : m₁.site = Machine.site { m with
      files := (childOf launch req.settings.git req.settings.root branchWords m).files } := by
    rw [branch?_eq, runFrom_map] at hbranch
    rw [← (Prod.mk.inj hbranch).2]
    exact site_query hgit henv (by decide) hroot
  have henv₁ : m₁.environment.Passable := by
    rw [show m₁.environment = m.environment from congrArg (fun site => site.1.1) hsite]
    exact henv
  have hcommit : (∃ r, answer (query launch req.settings.git req.settings.root commitWords) m₁ = .ok r) ↔
      _ := exists_answer_query_iff hgit henv₁ (by decide)
  rw [childOf_eq_of_site hsite, and_iff_right hroot] at hcommit
  rw [secondChild, ← hcommit]
  refine (exists_answer_bind_iff fun commit m₂ _ => ?_).trans (and_iff_left trivial)
  exact ⟨fun _ => trivial, fun _ => ⟨_, rfl⟩⟩

theorem exists_answer_prepare_iff {req : RunRequest} {path : String}
    (hreceipt : req.receipt = some path) (hgit : hasNull req.settings.git = false)
    (henv : m.environment.Passable) :
    (∃ r, answer (Run.prepare launch req) m = .ok r) ↔ (hasNull req.settings.root.text = false ∧
      (childOf launch req.settings.git req.settings.root branchWords m).Heard ∧
      (secondChild launch req.settings.git req.settings.root m).Heard) ∧
      ∃ steps, Plan.benchmark m.environment req.context req.settings = .ok steps := by
  let text := s!"benchmarking {req.context.describe}"
  let m₁ := m.report ⟨.info, .orchestrator, text⟩
  have hsite : m₁.site = m.site := (m.sameWorld_report _).site
  have henvironment : m₁.environment = m.environment := congrArg (fun site => site.1.1) hsite
  have hprovenance : (∃ p, answer (Run.provenance launch req) m₁ = .ok p) ↔ _ :=
    exists_answer_provenance_iff hreceipt hgit (henvironment.symm ▸ henv)
  rw [secondChild_eq_of_site hsite, childOf_eq_of_site hsite] at hprovenance
  rw [← hprovenance]
  change (∃ r, answer (Run.provenance launch req >>= fun p => _) m₁ = .ok r) ↔ _
  refine exists_answer_bind_iff fun p m₂ hp => ?_
  have hsetting := (Run.steady_provenance launch req).view_eq_of_runFrom hp
  have henvironment₂ : m₂.environment = m.environment :=
    (congrArg Prod.fst hsetting).trans henvironment
  rw [← henvironment₂]
  change (∃ r, answer (lift .home (Plan.benchmark m₂.environment req.context req.settings) >>= _) m₂ =
    .ok r) ↔ _
  cases Plan.benchmark m₂.environment req.context req.settings with
  | error e => exact iff_of_false (fun ⟨_, h⟩ => nomatch h) nofun
  | ok steps => exact iff_of_true ⟨(p, steps), rfl⟩ ⟨steps, rfl⟩

/-- Each question is answered exactly if its child is heard, with what the child said, and a run that
tells of the answers in a receipt comes to its first step exactly if both children are heard. -/
structure Answered (launch : Launcher) (git : String) (root : Path) (m : Machine) : Prop where
  branch : (∃ r, answer (branch? launch git root) m = .ok r) ↔
    hasNull root.text = false ∧ (childOf launch git root branchWords m).Heard
  commit : (∃ r, answer (commit? launch git root) m = .ok r) ↔
    hasNull root.text = false ∧ (childOf launch git root commitWords m).Heard
  branch_says : ∀ r, answer (branch? launch git root) m = .ok r → ∀ text,
    r = some text ↔ Says (childOf launch git root branchWords m) text ∧ text ≠ "HEAD"
  commit_says : ∀ r, answer (commit? launch git root) m = .ok r → ∀ text,
    r = some text ↔ Says (childOf launch git root commitWords m) text
  run : ∀ req : RunRequest, req.settings.git = git → req.settings.root = root → req.receipt ≠ none →
    ((∃ r, answer (Run.prepare launch req) m = .ok r) ↔ (hasNull root.text = false ∧
      (childOf launch git root branchWords m).Heard ∧ (secondChild launch git root m).Heard) ∧
      ∃ steps, Plan.benchmark m.environment req.context req.settings = .ok steps)

theorem answered (hlaunch : launch.Conventional) (hgit : hasNull git = false)
    (henv : m.environment.Passable) (root : Path) : Answered launch git root m where
  branch := exists_answer_branch?_iff hgit henv
  commit := exists_answer_query_iff hgit henv (by decide)
  branch_says _ h := answer_branch?_eq_some_iff hlaunch hgit henv h
  commit_says _ h := answer_query_eq_some_iff hlaunch hgit henv (by decide) h
  run := by
    rintro req rfl rfl hreceipt
    obtain ⟨path, hpath⟩ := Option.ne_none_iff_exists'.mp hreceipt
    exact exists_answer_prepare_iff hpath hgit henv

/-- A checkout whose branch is `main`. -/
theorem answered_on_main :
    let launch := Command.comingTo (.exited 0) (Text.encode "main\n")
    launch.Conventional ∧ hasNull "git" = false ∧ (Machine.inWork [] []).environment.Passable ∧
      answer (branch? launch "git" (Path.ofString "/work")) (.inWork [] []) = .ok (some "main") ∧
      Answered launch "git" (Path.ofString "/work") (.inWork [] []) := by
  intro launch
  have hlaunch : launch.Conventional := ⟨fun _ _ status h => by cases h; decide, nofun⟩
  have henv : (Machine.inWork [] []).environment.Passable := nofun
  exact ⟨hlaunch, by decide, henv, yields_iff.mp (by decide +kernel), answered hlaunch (by decide) henv _⟩

/-- Neither is every output told of, nor every refusal. -/
theorem not_answered_always :
    (¬∀ (stdout : Bytes) (root : Path) (m : Machine), hasNull root.text = false →
      m.environment.Passable →
        ∃ r, answer (branch? (Command.comingTo (.exited 0) stdout) "git" root) m = .ok r) ∧
    ¬∀ (cause : SystemError) (root : Path) (m : Machine), hasNull root.text = false →
      m.environment.Passable → ∃ r, answer (branch? (Command.refusing cause) "git" root) m = .ok r := by
  constructor
  · intro h
    obtain ⟨r, hr⟩ := h [0xFF] (Path.ofString "/work") (.inWork [] []) (by decide) nofun
    cases hr
  · intro h
    obtain ⟨r, hr⟩ := h .execFormat (Path.ofString "/work") (.inWork [] []) (by decide) nofun
    cases hr

end Repository

end MergeBench
