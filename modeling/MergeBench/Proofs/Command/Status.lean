import MergeBench.Proofs.Command.Output

/-!
What the result of a command says about its child. Once the child has been started and waited for, the
result is a function of how it ended and what it printed, `outcome`; before that every way to fail has
its own status, and none of them is zero. So a status of zero, and a result without a failure, each stand
for one way only in which things can have gone.
-/

namespace MergeBench

variable {m m' m₁ : Machine}

/-- Children end with a status of one octet, or by one of the 64 signals. -/
structure Launcher.Conventional (launch : Launcher) : Prop where
  status : ∀ l fs status, (launch l fs).ending = .exited status → status ≤ 255
  signal : ∀ l fs number, (launch l fs).ending = .signalled number → 1 ≤ number ∧ number ≤ 64

/-- The child came to its own end. -/
def Ending.isOwn : Ending → Bool
  | .exited _ | .signalled _ => true
  | .refused _ | .overran => false

namespace Command

variable {launch : Launcher} {c : Command} {redirect : Option Location} {child : ChildRun}
  {l : Launch} {r : Result}

/-- How the child of a command ended that was started with all that it needed, its working directory
and the file for its output among it, and that was waited for. -/
inductive Ends (launch : Launcher) (c : Command) (m : Machine) : Ending → Prop
  | mk {redirect : Option Location} {m₁ : Machine} {l : Launch} (hplace : c.HasPlace m)
      (hopens : c.Opens m redirect m₁) (hasks : c.Asks redirect m₁ l) (hwaits : c.Waits redirect) :
      Ends launch c m (launch l m₁.files).ending

theorem Opens.unique {redirect' : Option Location} {m₂ : Machine} (h : c.Opens m redirect m₁)
    (h' : c.Opens m redirect' m₂) : redirect = redirect' ∧ m₁ = m₂ := by
  cases h with
  | nothing hnone =>
    cases h' with
    | nothing => exact ⟨rfl, rfl⟩
    | file hfile =>
      rw [hnone] at hfile
      cases hfile
  | file hfile hopen =>
    cases h' with
    | nothing hnone =>
      rw [hnone] at hfile
      cases hfile
    | file hfile' hopen' =>
      rw [hfile] at hfile'
      cases hfile'
      rw [hopen] at hopen'
      cases hopen'
      exact ⟨rfl, rfl⟩

theorem Ends.of_opens {ending : Ending} (h : Ends launch c m ending)
    (hopens : c.Opens m redirect m₁) (hasks : c.Asks redirect m₁ l) :
    ending = (launch l m₁.files).ending ∧ c.Waits redirect := by
  obtain ⟨-, hopens', hasks', hwaits⟩ := h
  obtain ⟨rfl, rfl⟩ := hopens.unique hopens'
  rw [hasks.unique hasks']
  exact ⟨rfl, hwaits⟩

theorem Ends.unique {ending ending' : Ending} (h : Ends launch c m ending)
    (h' : Ends launch c m ending') : ending = ending' := by
  obtain ⟨-, hopens, hasks, -⟩ := h'
  exact (h.of_opens hopens hasks).1

theorem Ends.hasPlace {ending : Ending} (h : Ends launch c m ending) : c.HasPlace m := by
  obtain ⟨hplace, -, -, -⟩ := h
  exact hplace

theorem Ends.status_le {status : Nat} (hlaunch : launch.Conventional)
    (h : Ends launch c m (.exited status)) : status ≤ 255 := by
  generalize hending : Ending.exited status = ending at h
  cases h
  exact hlaunch.status _ _ _ hending.symm

theorem Ends.signal_range {number : Nat} (hlaunch : launch.Conventional)
    (h : Ends launch c m (.signalled number)) : 1 ≤ number ∧ number ≤ 64 := by
  generalize hending : Ending.signalled number = ending at h
  cases h
  exact hlaunch.signal _ _ _ hending.symm

/-! ### The outcome of a child -/

/-- The result for a child that came to its own end, unless what was captured of it is no text. -/
def ownResult (c : Command) (redirect : Option Location) (child : ChildRun) (code : Int)
    (failure : Option Failure) : Except Fault Result :=
  ((c.captured redirect child).mapError .encoding).map fun (stdout, stderr) =>
    ⟨shellStatus code, c.text, stdout, stderr, failure, child.elapsed⟩

/-- What a command reports or raises for a child, given how it ended and what it printed. -/
def outcome (c : Command) (redirect : Option Location) (child : ChildRun) : Except Fault Result :=
  match child.ending with
  | .refused e => c.refusal e child.elapsed
  | .overran => .ok (c.failed child.elapsed (.overran ((c.limit.map Duration.text).getD "None")))
  | .exited status => c.ownResult redirect child status none
  | .signalled number => c.ownResult redirect child (-number) (some (.signalled number))

theorem answer_finished (redirect : Option Location) (child : ChildRun) (code : Int)
    (failure : Option Failure) (m : Machine) :
    answer (c.finished redirect child code failure) m =
      c.ownResult redirect child code failure := by
  unfold finished ownResult answer
  rw [runFrom_bind, runFrom_lift]
  cases c.captured redirect child with
  | error e => rfl
  | ok texts =>
    obtain ⟨stdout, stderr⟩ := texts
    dsimp only [mapError_ok, Except.map]
    split <;> rfl

theorem answer_conclude (redirect : Option Location) (child : ChildRun) (m : Machine) :
    answer (c.conclude redirect child) m = c.outcome redirect child := by
  cases hending : child.ending with
  | refused e =>
    rw [answer_conclude_of_refused hending, outcome, hending]
  | overran =>
    unfold conclude outcome answer
    rw [runFrom_bind, runFrom_passOutput]
    simp only [hending]
    rfl
  | exited status | signalled number =>
    unfold conclude outcome answer
    rw [runFrom_bind, runFrom_passOutput]
    simp only [hending]
    exact answer_finished ..

theorem ownResult_eq_ok_iff {code : Int} {failure : Option Failure} :
    c.ownResult redirect child code failure = .ok r ↔
      ∃ stdout stderr, c.captured redirect child = .ok (stdout, stderr) ∧
        r = ⟨shellStatus code, c.text, stdout, stderr, failure, child.elapsed⟩ := by
  unfold ownResult
  cases c.captured redirect child with
  | error e => simp [Except.map]
  | ok texts =>
    obtain ⟨stdout, stderr⟩ := texts
    simp [Except.map, eq_comm (b := r), and_assoc]

theorem refusal_eq_ok {e : FileError} {elapsed : Nat} (h : c.refusal e elapsed = .ok r) :
    ∃ f : Failure, r = c.failed elapsed f ∧ f.status ∈ [1, 124, 126, 127] := by
  unfold refusal at h
  split at h
  case h_4 => cases h
  all_goals
    cases h
    exact ⟨_, rfl, by simp [Failure.status]⟩

theorem eq_empty_of_not_captured {stdout stderr : String}
    (h : c.captured redirect child = .ok (stdout, stderr)) (hcaptured : c.isCaptured redirect = false) :
    stdout = "" ∧ stderr = "" := by
  unfold captured at h
  rw [hcaptured] at h
  cases h
  exact ⟨rfl, rfl⟩

/-! ### What becomes of a command -/

/-- A child that has been started was refused, or waited for, or it had no time at all. -/
theorem await_eq_ok {before : FileSystem} {run : ChildRun}
    (h : c.await redirect before child = .ok run) :
    run = child ∧ ((∃ e, child.ending = .refused e) ∨ c.Waits redirect) ∨
      run.ending = .overran ∧ ¬c.Waits redirect := by
  by_cases hrefused : ∃ e, child.ending = .refused e
  · obtain ⟨e, he⟩ := hrefused
    rw [await_of_refused he] at h
    cases h
    exact .inl ⟨rfl, .inl ⟨e, he⟩⟩
  · have hstarted : ∀ e, child.ending ≠ .refused e := fun e he => hrefused ⟨e, he⟩
    by_cases hwaits : c.Waits redirect
    · rw [await_of_waits hstarted hwaits] at h
      cases h
      exact .inl ⟨rfl, .inr hwaits⟩
    · rcases await_of_not_waits hstarted hwaits with ⟨e, he⟩ | hover
      · rw [he] at h
        cases h
      · rw [hover] at h
        cases h
        exact .inr ⟨rfl, hwaits⟩

/-- A child that comes to its own end shows what it printed only where that is captured. -/
structure OwnEnd (launch : Launcher) (c : Command) (m : Machine) (ending : Ending) (r : Result) :
    Prop where
  ends : Ends launch c m ending
  shown : r.stdout ≠ "" ∨ r.stderr ≠ "" → c.capture = true ∧ c.artifact = none

/-- What a result stands for. -/
inductive Tells (launch : Launcher) (c : Command) (m : Machine) (r : Result) : Prop
  | failed {elapsed : Nat} {f : Failure} (hr : r = c.failed elapsed f)
      (hstatus : f.status ∈ [1, 124, 126, 127])
      (hends : ∀ ending, Ends launch c m ending → ending.isOwn = false) : Tells launch c m r
  | exited {status : Nat} (hown : OwnEnd launch c m (.exited status) r)
      (hcode : r.exitCode = shellStatus status) (hfailure : r.failure = none) : Tells launch c m r
  | signalled {number : Nat} (hown : OwnEnd launch c m (.signalled number) r)
      (hcode : r.exitCode = shellStatus (-number))
      (hfailure : r.failure = some (.signalled number)) : Tells launch c m r

theorem ownEnd_of_ownResult {ending : Ending} {code : Int} {failure : Option Failure}
    (hends : Ends launch c m ending) (hopens : c.Opens m redirect m₁)
    (h : c.ownResult redirect child code failure = .ok r) :
    OwnEnd launch c m ending r ∧ r.exitCode = shellStatus code ∧ r.failure = failure := by
  obtain ⟨stdout, stderr, hcaptured, rfl⟩ := ownResult_eq_ok_iff.mp h
  refine ⟨⟨hends, fun hshown => ?_⟩, rfl, rfl⟩
  have hcapture : c.isCaptured redirect = true := by
    cases hcapture : c.isCaptured redirect with
    | true => rfl
    | false =>
      obtain ⟨rfl, rfl⟩ := eq_empty_of_not_captured hcaptured hcapture
      simp at hshown
  unfold isCaptured at hcapture
  rw [Bool.and_eq_true, Option.isNone_iff_eq_none] at hcapture
  refine ⟨hcapture.1, ?_⟩
  cases hopens with
  | nothing hnone => exact hnone
  | file => cases hcapture.2

theorem tells_of_outcome (hplace : c.HasPlace m) (hopens : c.Opens m redirect m₁)
    (hasks : c.Asks redirect m₁ l)
    (hwaits : (∃ e, (launch l m₁.files).ending = .refused e) ∨ c.Waits redirect)
    (h : c.outcome redirect (launch l m₁.files) = .ok r) : Tells launch c m r := by
  have hnone (hown : (launch l m₁.files).ending.isOwn = false) :
      ∀ ending, Ends launch c m ending → ending.isOwn = false := by
    intro ending hending
    rw [(hending.of_opens hopens hasks).1, hown]
  have hends (hstarted : ∀ e, (launch l m₁.files).ending ≠ .refused e) :
      Ends launch c m (launch l m₁.files).ending := by
    refine .mk hplace hopens hasks (hwaits.resolve_left ?_)
    rintro ⟨e, he⟩
    exact hstarted e he
  unfold outcome at h
  cases hending : (launch l m₁.files).ending with
  | refused e =>
    rw [hending] at h
    obtain ⟨f, hr, hstatus⟩ := refusal_eq_ok h
    exact .failed hr hstatus (hnone (by rw [hending]; rfl))
  | overran =>
    rw [hending] at h
    cases h
    exact .failed rfl (by simp [Failure.status]) (hnone (by rw [hending]; rfl))
  | exited status =>
    rw [hending] at h hends
    obtain ⟨hown, hcode, hfailure⟩ := ownEnd_of_ownResult (hends (by simp)) hopens h
    exact .exited hown hcode hfailure
  | signalled number =>
    rw [hending] at h hends
    obtain ⟨hown, hcode, hfailure⟩ := ownEnd_of_ownResult (hends (by simp)) hopens h
    exact .signalled hown hcode hfailure

theorem tells_of_attempt (hplace : c.HasPlace m) (hopens : c.Opens m redirect m₁)
    (h : runFrom (attempt launch c redirect) m₁ = (.ok r, m')) : Tells launch c m r := by
  unfold attempt at h
  obtain ⟨child, m₂, hstart, hconclude⟩ := runFrom_bind_eq_ok_iff.mp h
  obtain ⟨l, hasks⟩ := exists_asks_of_start (hplace.of_opens hopens) hstart
  have hawait : c.await redirect m₁.files (launch l m₁.files) = .ok child := by
    rw [runFrom_start hasks] at hstart
    cases hawait : c.await redirect m₁.files (launch l m₁.files) with
    | error e =>
      rw [hawait] at hstart
      cases hstart
    | ok run =>
      rw [hawait] at hstart
      cases hstart
      rfl
  have houtcome : c.outcome redirect child = .ok r := by
    rw [← answer_conclude redirect child m₂]
    exact answer_eq_iff.mpr ⟨m', hconclude⟩
  rcases await_eq_ok hawait with ⟨rfl, hwaits⟩ | ⟨hover, hwaits⟩
  · exact tells_of_outcome hplace hopens hasks hwaits houtcome
  -- no child ends that has no time at all
  · rw [outcome, hover] at houtcome
    cases houtcome
    refine .failed rfl (by simp [Failure.status]) fun ending hends => ?_
    exact absurd (hends.of_opens hopens hasks).2 hwaits

theorem tells_of_run (h : runFrom (run launch c) m = (.ok r, m')) : Tells launch c m r := by
  cases goes_of_run h with
  | noDirectory hdirectory hthere =>
    refine .failed rfl (by simp [Failure.status]) fun ending hends => ?_
    rw [answer_isDirectory_eq_true_iff.mpr (hends.hasPlace _ hdirectory)] at hthere
    cases hthere
  | unwritable hplace hartifact hopen =>
    refine .failed rfl (by simp [Failure.status]) fun ending hends => ?_
    obtain ⟨-, hopens, -, -⟩ := hends
    cases hopens with
    | nothing hnone =>
      rw [hartifact] at hnone
      cases hnone
    | file hfile hopen' =>
      rw [hartifact] at hfile
      cases hfile
      rw [hopen] at hopen'
      cases hopen'
  | attempted hplace hopens hrun => exact tells_of_attempt hplace hopens hrun

/-! ### Reading a result -/

namespace Tells

theorem ends_of_failure_eq_none (h : Tells launch c m r) (hfailure : r.failure = none) :
    ∃ status, Ends launch c m (.exited status) := by
  cases h with
  | failed hr =>
    rw [hr] at hfailure
    cases hfailure
  | exited hown => exact ⟨_, hown.ends⟩
  | signalled _ _ hsignal =>
    rw [hsignal] at hfailure
    cases hfailure

/-- A child that exited by itself is told by its status, without a failure. -/
theorem of_exited {status : Nat} (h : Tells launch c m r) (hends : Ends launch c m (.exited status)) :
    r.exitCode = status ∧ r.failure = none := by
  cases h with
  | failed _ _ hnone => cases hnone _ hends
  | exited hown hcode hfailure =>
    cases hends.unique hown.ends
    exact ⟨hcode.trans (if_neg (by omega)), hfailure⟩
  | signalled hown => cases hends.unique hown.ends

theorem exitCode_of_failure (hlaunch : launch.Conventional) (h : Tells launch c m r)
    (hfailure : r.failure ≠ none) : 0 < r.exitCode ∧ r.exitCode ≤ 255 := by
  cases h with
  | @failed _ f hr hstatus =>
    have hcode : r.exitCode = f.status := by rw [hr, Command.failed]
    simp only [List.mem_cons, List.not_mem_nil, or_false] at hstatus
    omega
  | exited _ _ hnone => exact absurd hnone hfailure
  | @signalled number hown hcode =>
    have hrange := hown.ends.signal_range hlaunch
    unfold shellStatus at hcode
    omega

theorem shown (h : Tells launch c m r) (hshown : r.stdout ≠ "" ∨ r.stderr ≠ "") :
    c.capture = true ∧ c.artifact = none ∧
      ∃ ending, Ends launch c m ending ∧ ending.isOwn = true := by
  cases h with
  | failed hr =>
    rw [hr, Command.failed] at hshown
    simp at hshown
  | exited hown | signalled hown =>
    obtain ⟨hcapture, hartifact⟩ := hown.shown hshown
    exact ⟨hcapture, hartifact, _, hown.ends, rfl⟩

end Tells

/-- A status of zero and a result without a failure each stand for one end of the child only, no status
is out of range, and no output is shown but what was captured from a child that came to its own end. -/
theorem result_tells (hlaunch : launch.Conventional) (h : runFrom (run launch c) m = (.ok r, m')) :
    (r.exitCode = 0 ↔ Ends launch c m (.exited 0)) ∧
    (r.failure = none ↔ ∃ status, Ends launch c m (.exited status)) ∧
    (∀ status, Ends launch c m (.exited status) → r.exitCode = status) ∧
    (0 ≤ r.exitCode ∧ r.exitCode ≤ 255) ∧
    (r.stdout ≠ "" ∨ r.stderr ≠ "" → c.capture = true ∧ c.artifact = none ∧
      ∃ ending, Ends launch c m ending ∧ ending.isOwn = true) := by
  have htells := tells_of_run h
  have hcode (status : Nat) (hends : Ends launch c m (.exited status)) : r.exitCode = status :=
    (htells.of_exited hends).1
  refine ⟨⟨fun hzero => ?_, hcode 0⟩, ⟨htells.ends_of_failure_eq_none, ?_⟩, hcode, ?_, htells.shown⟩
  · have hfailure : r.failure = none := by
      refine Decidable.byContradiction fun hfailure => ?_
      have hrange := htells.exitCode_of_failure hlaunch hfailure
      omega
    obtain ⟨status, hends⟩ := htells.ends_of_failure_eq_none hfailure
    obtain rfl : status = 0 := by
      have hstatus := hcode status hends
      omega
    exact hends
  · rintro ⟨status, hends⟩
    exact (htells.of_exited hends).2
  · by_cases hfailure : r.failure = none
    · obtain ⟨status, hends⟩ := htells.ends_of_failure_eq_none hfailure
      have hle := hends.status_le hlaunch
      have hstatus := hcode status hends
      omega
    · have hrange := htells.exitCode_of_failure hlaunch hfailure
      omega

/-- Children that print this on their standard output and end this way. -/
def comingTo (e : Ending) (stdout : Bytes) : Launcher := fun _ files => ⟨e, stdout, [], files, 0⟩

/-- A child that prints a letter and is killed. -/
theorem result_tells_killed :
    let launch := comingTo (.signalled 9) [0x78]
    let c : Command := { words := ["make", "bench"] }
    let r : Result := ⟨137, "make bench", "x", "", some (.signalled 9), 0⟩
    launch.Conventional ∧ runFrom (run launch c) (.inWork [] []) = (.ok r, .inWork [] []) ∧
      (r.exitCode = 0 ↔ Ends launch c (.inWork [] []) (.exited 0)) ∧
      (r.failure = none ↔ ∃ status, Ends launch c (.inWork [] []) (.exited status)) ∧
      (∀ status, Ends launch c (.inWork [] []) (.exited status) → r.exitCode = status) ∧
      (0 ≤ r.exitCode ∧ r.exitCode ≤ 255) ∧
      (r.stdout ≠ "" ∨ r.stderr ≠ "" → c.capture = true ∧ c.artifact = none ∧
        ∃ ending, Ends launch c (.inWork [] []) ending ∧ ending.isOwn = true) := by
  intro launch c r
  have hlaunch : launch.Conventional := ⟨nofun, fun _ _ number h => by cases h; decide⟩
  have hrun : runFrom (run launch c) (.inWork [] []) = (.ok r, .inWork [] []) := rfl
  exact ⟨hlaunch, hrun, result_tells hlaunch hrun⟩

end Command

end MergeBench
