import Mathlib.Logic.Function.Basic
import MergeBench.BuildContext
import MergeBench.Proofs.Activity

namespace MergeBench.Settings

/-- Not there, or nothing but blanks. -/
def Missing (text : Option String) : Prop :=
  ∀ t, text = some t → ∀ c ∈ t.toList, Text.isBlank c = true

/-- The flag tells nothing, or it tells of a pull request and the branch tells nothing. -/
def Unclear (s : Settings) (flag branch : Option String) : Prop :=
  Missing flag ∨ (flag ≠ some s.sentinel ∧ Missing branch)

variable {s : Settings} {vars : Variables} {givenFlag givenBranch : Option String} {m : Machine}

theorem missing_none : Missing none := by
  intro t h
  cases h

theorem missing_some_iff {t : String} : Missing (some t) ↔ Text.isAllBlank t = true := by
  rw [Text.isAllBlank, List.all_eq_true]
  constructor
  · intro h
    exact h t rfl
  · rintro h _ ⟨⟩
    exact h

theorem isMissing_iff {text : Option String} : isMissing text = true ↔ Missing text := by
  cases text with
  | none => exact iff_of_true rfl missing_none
  | some t => exact missing_some_iff.symm

/-! ### The three outcomes -/

theorem context?_of_missing_flag (h : Missing (s.flag? vars givenFlag)) :
    s.context? vars givenFlag givenBranch = .error (.missingFlag s.flagVariable s.sentinel) := by
  unfold context?
  cases hflag : s.flag? vars givenFlag with
  | none => rfl
  | some flag =>
    rw [hflag, missing_some_iff] at h
    exact if_pos h

section FlagTold

variable {flag : String} (hflag : s.flag? vars givenFlag = some flag) (hfull : ¬Missing (some flag))

include hflag hfull

theorem context?_of_flag :
    s.context? vars givenFlag givenBranch =
      if flag != s.sentinel && isMissing (s.branch? vars givenBranch) then
        .error (.missingBranch s.branchVariable flag)
      else .ok ⟨flag, (s.branch? vars givenBranch).filter (· != ""), s.sentinel⟩ := by
  rw [missing_some_iff] at hfull
  unfold context?
  rw [hflag]
  exact if_neg hfull

theorem context?_of_missing_branch (hpr : flag ≠ s.sentinel)
    (hbranch : Missing (s.branch? vars givenBranch)) :
    s.context? vars givenFlag givenBranch = .error (.missingBranch s.branchVariable flag) := by
  rw [context?_of_flag hflag hfull, isMissing_iff.mpr hbranch, bne_iff_ne.mpr hpr]
  rfl

theorem context?_of_clear (hclear : flag = s.sentinel ∨ ¬Missing (s.branch? vars givenBranch)) :
    s.context? vars givenFlag givenBranch =
      .ok ⟨flag, (s.branch? vars givenBranch).filter (· != ""), s.sentinel⟩ := by
  rw [context?_of_flag hflag hfull, if_neg]
  rw [Bool.and_eq_true, bne_iff_ne, isMissing_iff]
  rintro ⟨hpr, hbranch⟩
  exact hclear.elim hpr (absurd hbranch)

end FlagTold

theorem context?_cases (s : Settings) (vars : Variables) (givenFlag givenBranch : Option String) :
    (s.Unclear (s.flag? vars givenFlag) (s.branch? vars givenBranch) ∧
        ∃ e, s.context? vars givenFlag givenBranch = .error e) ∨
      (¬s.Unclear (s.flag? vars givenFlag) (s.branch? vars givenBranch) ∧
        ∃ flag, s.flag? vars givenFlag = some flag ∧ s.context? vars givenFlag givenBranch =
          .ok ⟨flag, (s.branch? vars givenBranch).filter (· != ""), s.sentinel⟩) := by
  by_cases hmissing : Missing (s.flag? vars givenFlag)
  · exact .inl ⟨.inl hmissing, _, context?_of_missing_flag hmissing⟩
  obtain ⟨flag, hflag⟩ : ∃ flag, s.flag? vars givenFlag = some flag := by
    cases hflag : s.flag? vars givenFlag with
    | none => exact absurd (hflag ▸ missing_none) hmissing
    | some flag => exact ⟨flag, rfl⟩
  have hfull : ¬Missing (some flag) := hflag ▸ hmissing
  by_cases hclear : flag = s.sentinel ∨ ¬Missing (s.branch? vars givenBranch)
  · refine .inr ⟨?_, flag, hflag, context?_of_clear hflag hfull hclear⟩
    rintro (h | ⟨hpr, hbranch⟩)
    · exact hmissing h
    · rw [hflag, ne_eq, Option.some.injEq] at hpr
      exact hclear.elim hpr (absurd hbranch)
  · rw [not_or, not_not] at hclear
    obtain ⟨hpr, hbranch⟩ := hclear
    refine .inl ⟨.inr ⟨?_, hbranch⟩, _, context?_of_missing_branch hflag hfull hpr hbranch⟩
    rw [hflag, ne_eq, Option.some.injEq]
    exact hpr

/-! ### Options in the place of variables -/

/-- The variables of the flag and of the branch with new texts. -/
def setBuild (s : Settings) (vars : Variables) (flag branch : String) : Variables :=
  Function.update (Function.update vars s.flagVariable (some flag)) s.branchVariable (some branch)

theorem flag?_setBuild (h : s.flagVariable ≠ s.branchVariable) (vars : Variables)
    (flag branch : String) : s.flag? (s.setBuild vars flag branch) none = some flag := by
  calc s.flag? (s.setBuild vars flag branch) none
      = Function.update vars s.flagVariable (some flag) s.flagVariable := Function.update_of_ne h _ _
    _ = some flag := Function.update_self _ _ _

theorem branch?_setBuild (vars : Variables) (flag branch : String) :
    s.branch? (s.setBuild vars flag branch) none = some branch :=
  Function.update_self _ _ _

theorem context?_setBuild (h : s.flagVariable ≠ s.branchVariable) (vars : Variables)
    (flag branch : String) :
    s.context? (s.setBuild vars flag branch) none none =
      s.context? vars (some flag) (some branch) := by
  unfold context?
  rw [flag?_setBuild h, branch?_setBuild]
  rfl

theorem answer_readContext (s : Settings) (vars : Variables) (givenFlag givenBranch : Option String)
    (m : Machine) :
    answer (s.readContext vars givenFlag givenBranch) m =
      (s.context? vars givenFlag givenBranch).mapError .config := by
  unfold readContext
  rw [(quiet_lift _ _).answer_bind fun _ => (quiet_report _ _ _).bind fun _ => quiet_pure _,
    answer_lift]
  cases s.context? vars givenFlag givenBranch <;> rfl

/-- A context is refused exactly where it is unclear; otherwise it holds the flag and the branch as
they are. Options for both give what the variables would give if they were set to the same texts. -/
theorem readContext_refused_iff (s : Settings) (vars : Variables)
    (givenFlag givenBranch : Option String) (m : Machine) :
    ((∃ e, answer (s.readContext vars givenFlag givenBranch) m = .error (.config e)) ↔
        s.Unclear (s.flag? vars givenFlag) (s.branch? vars givenBranch)) ∧
      (¬s.Unclear (s.flag? vars givenFlag) (s.branch? vars givenBranch) →
        ∃ c, answer (s.readContext vars givenFlag givenBranch) m = .ok c ∧
          s.flag? vars givenFlag = some c.flag ∧
          (∀ b, c.branch = some b ↔ s.branch? vars givenBranch = some b ∧ b ≠ "") ∧
          c.sentinel = s.sentinel ∧ c.isPullRequest = !s.isSentinelFlag vars givenFlag) ∧
      (s.flagVariable ≠ s.branchVariable → ∀ flag branch,
        answer (s.readContext vars (some flag) (some branch)) m =
          answer (s.readContext (s.setBuild vars flag branch) none none) m) := by
  simp only [answer_readContext]
  refine ⟨?_, ?_, ?_⟩
  · rcases s.context?_cases vars givenFlag givenBranch with
      ⟨hunclear, e, h⟩ | ⟨hclear, flag, -, h⟩
    · exact iff_of_true ⟨e, by rw [h, mapError_error]⟩ hunclear
    · refine iff_of_false ?_ hclear
      rintro ⟨e, he⟩
      rw [h, mapError_ok] at he
      cases he
  · intro hclear
    rcases s.context?_cases vars givenFlag givenBranch with ⟨hunclear, -⟩ | ⟨-, flag, hflag, h⟩
    · exact absurd hunclear hclear
    · refine ⟨_, by rw [h, mapError_ok], hflag, ?_, rfl, ?_⟩
      · intro b
        simp only [Option.filter_eq_some_iff, bne_iff_ne]
      · rw [isSentinelFlag, hflag]
        rfl
  · intro h flag branch
    rw [context?_setBuild h]

/-- The seventh request against a branch, once by options and once by variables. -/
theorem readContext_refused_iff_seven :
    (∃ c, answer (({ root := Path.ofString "/work" } : Settings).readContext (fun _ => none) (some "7")
        (some "main")) (.inWork [] []) = .ok c ∧ c.flag = "7" ∧ c.branch = some "main") ∧
      answer (({ root := Path.ofString "/work" } : Settings).readContext (fun _ => none) (some "7")
        (some "main")) (.inWork [] []) =
        answer (({ root := Path.ofString "/work" } : Settings).readContext
          (setBuild { root := Path.ofString "/work" } (fun _ => none) "7" "main") none none)
          (.inWork [] []) := by
  obtain ⟨-, hclear, hset⟩ := readContext_refused_iff { root := Path.ofString "/work" }
    (fun _ => none) (some "7") (some "main") (.inWork [] [])
  have htold : ¬Unclear { root := Path.ofString "/work" } (some "7") (some "main") := by
    rintro (h | ⟨-, h⟩)
    all_goals exact absurd (missing_some_iff.mp h) (by decide)
  obtain ⟨c, hc, hflag, hbranch, -, -⟩ := hclear htold
  refine ⟨⟨c, hc, Option.some.inj hflag.symm, (hbranch "main").mpr ⟨rfl, by decide⟩⟩, ?_⟩
  exact hset (by decide) "7" "main"

end MergeBench.Settings
