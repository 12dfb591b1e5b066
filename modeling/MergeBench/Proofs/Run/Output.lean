import MergeBench.Proofs.Command.Output
import MergeBench.Proofs.Run.Trail

namespace MergeBench.Run

variable {launch : Launcher} {timeout : Int} {steps : List Step} {stages : List Stage} {s : Stage}
  {m m' m₁ : Machine} {r : Except Fault Outcome} {p : Path} {l : Location}

/-- The bytes that a step adds to the output of the program. -/
inductive Says (launch : Launcher) (timeout : Int) (s : Stage) : Bytes → Prop
  | announced (hkind : s.step.kind = .announce) :
      Says launch timeout s (Machine.lineBytes s.step.messageText)
  | redirected {p : Path} (hkind : s.step.kind ≠ .announce) (hartifact : s.step.artifact = some p) :
      Says launch timeout s []
  | passed {bytes : Bytes} (hkind : s.step.kind ≠ .announce) (hartifact : s.step.artifact = none)
      (hprints : Command.Prints launch (commandOf s.step timeout) none s.told bytes) :
      Says launch timeout s bytes

/-! ### One step -/

theorem Stage.exists_says (hlaunch : launch.WritesStreams)
    (hrun : runFrom (runStep launch s.step false timeout) s.before = (s.answer, s.after)) :
    ∃ bytes, Says launch timeout s bytes ∧ s.after.output = s.before.output ++ bytes := by
  by_cases hkind : s.step.kind = .announce
  · obtain ⟨e, hannounce, -, -⟩ := runFrom_announce launch hkind s.before
    rw [hannounce] at hrun
    obtain ⟨-, hafter⟩ := Prod.mk.inj hrun
    exact ⟨_, .announced hkind, by rw [← hafter]; rfl⟩
  · obtain ⟨result, m₁, hcommand, hsame, -⟩ := runFrom_runStep hkind hrun
    have htold : s.told.output = s.before.output :=
      (s.before.sameWorld_report _).output
    rw [hsame.output, ← htold]
    cases hartifact : s.step.artifact with
    | none =>
      obtain ⟨bytes, hprints, houtput⟩ := Command.output_of_run hlaunch rfl hartifact hcommand
      exact ⟨bytes, .passed hkind hartifact hprints, houtput⟩
    | some p =>
      have houtput := Command.output_of_run_artifact hlaunch hartifact hcommand
      exact ⟨[], .redirected hkind hartifact, houtput.trans (List.append_nil _).symm⟩

/-- A file that was opened for a step holds what the child printed, whatever the step came to. -/
theorem Stage.OpensAt.exists_file (hlaunch : launch.WritesStreams) (hopens : s.OpensAt p l m₁)
    (hrun : runFrom (runStep launch s.step false timeout) s.before = (s.answer, s.after)) :
    ∃ bytes executable, Command.Prints launch (commandOf s.step timeout) (some l) m₁ bytes ∧
      s.after.files.LeadsTo s.after.directory p l (.file bytes executable) := by
  obtain ⟨result, m₂, hcommand, hsame, -⟩ := runFrom_runStep hopens.writes.kind hrun
  have hplace : (commandOf s.step timeout).HasPlace s.told := hopens.writes.place
  obtain ⟨bytes, executable, hprints, hleads⟩ :=
    Command.file_of_run hlaunch hplace hopens.writes.artifact hopens.opened hcommand
  rw [← hsame.files, ← hsame.directory] at hleads
  exact ⟨bytes, executable, hprints, hleads⟩

/-! ### Whole runs -/

theorem Trail.exists_pieces (hlaunch : launch.WritesStreams)
    (h : Trail (runStep launch) false timeout steps m stages r m') :
    ∃ pieces, List.Forall₂ (Says launch timeout) stages pieces ∧
      m'.output = m.output ++ pieces.flatten := by
  induction h with
  | done => exact ⟨[], .nil, (List.append_nil _).symm⟩
  | raised rest hstep =>
    obtain ⟨bytes, hsays, houtput⟩ := Stage.exists_says (s := ⟨_, _, _, _⟩) hlaunch hstep
    exact ⟨[bytes], .cons hsays .nil, by simpa using houtput⟩
  | aborted rest hstep habort =>
    obtain ⟨bytes, hsays, houtput⟩ := Stage.exists_says (s := ⟨_, _, _, _⟩) hlaunch hstep
    refine ⟨[bytes], .cons hsays .nil, ?_⟩
    rw [(Machine.sameWorld_report _ _).output]
    simpa using houtput
  | @continued step e rest m m₁ m' stages r hstep hpass later ih =>
    obtain ⟨bytes, hsays, houtput⟩ := Stage.exists_says (s := ⟨step, m, .ok e, m₁⟩) hlaunch hstep
    obtain ⟨pieces, hall, hlater⟩ := ih
    refine ⟨bytes :: pieces, .cons hsays hall, ?_⟩
    calc
      m'.output = m₁.output ++ pieces.flatten := hlater
      _ = m.output ++ bytes ++ pieces.flatten := by rw [houtput]
      _ = m.output ++ (bytes :: pieces).flatten := by rw [List.flatten_cons, List.append_assoc]

/-- A run writes the lines of its announcements and what the children of its other commands print, one
after the other, and each file that it opens holds what the child of its command prints. -/
theorem output_of_execute (hlaunch : launch.WritesStreams)
    (hrun : runFrom (execute (runStep launch) false timeout steps : Act Outcome) m = (r, m')) :
    ∃ stages pieces, Trail (runStep launch) false timeout steps m stages r m' ∧
      List.Forall₂ (Says launch timeout) stages pieces ∧ m'.output = m.output ++ pieces.flatten ∧
      ∀ s ∈ stages, ∀ p l m₁, s.OpensAt p l m₁ →
        ∃ bytes executable, Command.Prints launch (commandOf s.step timeout) (some l) m₁ bytes ∧
          s.after.files.LeadsTo s.after.directory p l (.file bytes executable) := by
  obtain ⟨stages, htrail⟩ := trail_of_execute hrun
  obtain ⟨pieces, hsays, houtput⟩ := htrail.exists_pieces hlaunch
  refine ⟨stages, pieces, htrail, hsays, houtput, ?_⟩
  intro s hs p l m₁ hopens
  exact hopens.exists_file hlaunch (htrail.runFrom_eq hs)

/-- Children print their program, and one of them is killed after that. -/
def echoing : Launcher := fun l files =>
  ⟨if l.words = ["stuck"] then .signalled 9 else .exited 0, Text.encode (String.join l.words), [], files, 0⟩

theorem writesStreams_echoing : echoing.WritesStreams where
  files _ _ := rfl
  refused l fs e h := by
    simp only [echoing] at h
    split at h <;> cases h

/-- One command prints; two have the same file for their output, and the second of them is killed. -/
def echoes : List Step :=
  let bench (name word : String) : Step := { name := name, kind := .command, words := [word] }
  [Plan.announce "start" "Benchmarking...", bench "plain" "loud",
    { bench "first" "quiet" with artifact := some (Path.ofString "out") },
    { bench "second" "stuck" with artifact := some (Path.ofString "out") }]

theorem output_of_echoes :
    let m := Machine.inWork [("out", Text.encode "an older result")] []
    let run := runFrom (execute (runStep echoing) false 0 echoes : Act Outcome) m
    echoing.WritesStreams ∧ ∃ o, run = (.ok o, run.2) ∧
      ∃ stages pieces, Trail (runStep echoing) false 0 echoes m stages (.ok o) run.2 ∧
        List.Forall₂ (Says echoing 0) stages pieces ∧ run.2.output = m.output ++ pieces.flatten ∧
        ∀ s ∈ stages, ∀ p l m₁, s.OpensAt p l m₁ →
          ∃ bytes executable, Command.Prints echoing (commandOf s.step 0) (some l) m₁ bytes ∧
            s.after.files.LeadsTo s.after.directory p l (.file bytes executable) := by
  intro m run
  obtain ⟨o, hrun⟩ : ∃ o, run = (.ok o, run.2) := exists_runFrom_of_isOk (by decide +kernel)
  exact ⟨writesStreams_echoing, o, hrun, output_of_execute writesStreams_echoing hrun⟩

example : (runFrom (execute (runStep echoing) false 0 echoes : Act Outcome) (.inWork [] [])).2.output =
    Text.encode "Benchmarking...\nloud" := by
  decide +kernel

end MergeBench.Run
