import Mathlib.Data.List.Perm.Subperm
import MergeBench.Proofs.FileSystem.Walk

/-!
File systems that differ in one regular file at most, which may also be missing from one of them. A walk
goes the same way through both up to that file: it ends there in both, or it cannot pass there in either.
Links are the same, so that paths are resolved alike.
-/

namespace MergeBench.FileSystem

variable {fs fs' : FileSystem} {follow : Bool} {links : Nat} {here l : Location} {name : String}
  {names rest : List String} {r : Except SystemError Spot} {path : String}

/-- At most a regular file is at the location, below a directory. -/
structure HoldsFile (fs : FileSystem) (l : Location) : Prop where
  file : ∀ e, fs.get? l = some e → ∃ content executable, e = .file content executable
  above : fs.hasDirectory l.dropLast = true

/-- The two differ at most in the file at the location. -/
structure AlikeBut (l : Location) (fs fs' : FileSystem) : Prop where
  elsewhere : ∀ k, k ≠ l → fs'.get? k = fs.get? k
  before : fs.HoldsFile l
  after : fs'.HoldsFile l

namespace HoldsFile

theorem not_directory (h : fs.HoldsFile l) : fs.get? l ≠ some .directory := by
  intro he
  obtain ⟨content, executable, hfile⟩ := h.file _ he
  cases hfile

theorem not_link (h : fs.HoldsFile l) (target : String) : fs.get? l ≠ some (.link target) := by
  intro he
  obtain ⟨content, executable, hfile⟩ := h.file _ he
  cases hfile

/-- A walk that comes to the location with no name left ends there. -/
theorem walks_to (h : fs.HoldsFile (here ++ [name])) (hname : Names name) (follow : Bool)
    (links : Nat) :
    Walks fs follow links here [name] (.ok ⟨here ++ [name], fs.get? (here ++ [name])⟩) := by
  have habove := h.above
  rw [List.dropLast_concat] at habove
  cases hentry : fs.get? (here ++ [name]) with
  | none => exact .free links hname hentry habove
  | some e =>
    obtain ⟨content, executable, rfl⟩ := h.file e hentry
    exact .file links hname hentry

/-- A walk that comes to the location with names left ends in an error. -/
theorem walks_beyond (h : fs.HoldsFile (here ++ [name])) (hname : Names name) (hrest : rest ≠ [])
    (follow : Bool) (links : Nat) :
    ∃ e, (e = .noEntry ∨ e = .notDirectory) ∧ Walks fs follow links here (name :: rest) (.error e) := by
  cases hentry : fs.get? (here ++ [name]) with
  | none => exact ⟨_, .inl rfl, .missing links hname hentry (.inl hrest)⟩
  | some e =>
    obtain ⟨content, executable, rfl⟩ := h.file e hentry
    exact ⟨_, .inr rfl, .noDirectory links hname hentry hrest⟩

end HoldsFile

namespace AlikeBut

theorem get?_directory (h : AlikeBut l fs fs') {k : Location} (hk : fs.get? k = some .directory) :
    fs'.get? k = some .directory := by
  rwa [h.elsewhere]
  rintro rfl
  exact h.before.not_directory hk

theorem get?_link (h : AlikeBut l fs fs') {k : Location} {target : String}
    (hk : fs.get? k = some (.link target)) : fs'.get? k = some (.link target) := by
  rwa [h.elsewhere]
  rintro rfl
  exact h.before.not_link target hk

theorem symm (h : AlikeBut l fs fs') : AlikeBut l fs' fs :=
  ⟨fun k hk => (h.elsewhere k hk).symm, h.after, h.before⟩

theorem hasDirectory_eq (h : AlikeBut l fs fs') (k : Location) :
    fs'.hasDirectory k = fs.hasDirectory k := by
  have hiff : fs'.get? k = some .directory ↔ fs.get? k = some .directory :=
    ⟨h.symm.get?_directory, h.get?_directory⟩
  rw [Bool.eq_iff_iff]
  simp only [hasDirectory, Bool.or_eq_true, beq_iff_eq, hiff]

end AlikeBut

/-! ### Walks -/

/-- Walks end alike if they end in the same way, or both at the location, or both on a broken way. -/
inductive EndsAlike (l : Location) : Except SystemError Spot → Except SystemError Spot → Prop
  | same (r : Except SystemError Spot) : EndsAlike l r r
  | there (e e' : Option Entry) : EndsAlike l (.ok ⟨l, e⟩) (.ok ⟨l, e'⟩)
  | broken {e e' : SystemError} (h : e = .noEntry ∨ e = .notDirectory)
      (h' : e' = .noEntry ∨ e' = .notDirectory) : EndsAlike l (.error e) (.error e')

theorem Walks.of_alikeBut (hfs : AlikeBut l fs fs') (h : Walks fs follow links here names r) :
    ∃ r', Walks fs' follow links here names r' ∧ EndsAlike l r r' := by
  induction h with
  | arrived links here => exact ⟨_, .arrived links here, .same _⟩
  | here later ih => exact ih.imp fun _ h => h.imp_left .here
  | above later ih => exact ih.imp fun _ h => h.imp_left .above
  | tooLong links here rest hname hlong => exact ⟨_, .tooLong links here rest hname hlong, .same _⟩
  | @free links here name hname hentry hhere =>
    by_cases hl : here ++ [name] = l
    · subst hl
      exact ⟨_, hfs.after.walks_to hname follow links, .there ..⟩
    · rw [← hfs.elsewhere _ hl] at hentry
      rw [← hfs.hasDirectory_eq] at hhere
      exact ⟨_, .free links hname hentry hhere, .same _⟩
  | @missing links here name rest hname hentry hend =>
    by_cases hl : here ++ [name] = l
    · subst hl
      have habove := hfs.before.above
      rw [List.dropLast_concat] at habove
      have hrest : rest ≠ [] := hend.resolve_right (by simp [habove])
      obtain ⟨e, he, hwalks⟩ := hfs.after.walks_beyond hname hrest follow links
      exact ⟨_, hwalks, .broken (.inl rfl) he⟩
    · rw [← hfs.elsewhere _ hl] at hentry
      rw [← hfs.hasDirectory_eq] at hend
      exact ⟨_, .missing links hname hentry hend, .same _⟩
  | directory hname hentry later ih =>
    exact ih.imp fun _ h => h.imp_left (.directory hname (hfs.get?_directory hentry))
  | @file links here name content executable hname hentry =>
    by_cases hl : here ++ [name] = l
    · subst hl
      exact ⟨_, hfs.after.walks_to hname follow links, .there ..⟩
    · rw [← hfs.elsewhere _ hl] at hentry
      exact ⟨_, .file links hname hentry, .same _⟩
  | @noDirectory links here name rest content executable hname hentry hend =>
    by_cases hl : here ++ [name] = l
    · subst hl
      obtain ⟨e, he, hwalks⟩ := hfs.after.walks_beyond hname hend follow links
      exact ⟨_, hwalks, .broken (.inr rfl) he⟩
    · rw [← hfs.elsewhere _ hl] at hentry
      exact ⟨_, .noDirectory links hname hentry hend, .same _⟩
  | link links hname hentry hfollow =>
    exact ⟨_, .link links hname (hfs.get?_link hentry) hfollow, .same _⟩
  | tooManyLinks hname hentry hend =>
    exact ⟨_, .tooManyLinks hname (hfs.get?_link hentry) hend, .same _⟩
  | followed hname hentry hend later ih =>
    exact ih.imp fun _ h => h.imp_left (.followed hname (hfs.get?_link hentry) hend)

theorem find_of_alikeBut (hfs : AlikeBut l fs fs') (follow : Bool) (here : Location) (path : String) :
    EndsAlike l (fs.find follow here path) (fs'.find follow here path) := by
  unfold find
  split
  · exact .same _
  · split
    · exact .same _
    · obtain ⟨r', hwalks, hends⟩ := (walks_walk fs follow linkLimit _ _).of_alikeBut hfs
      rwa [hwalks.walk_eq]

/-- The path leads to the location, whether or not anything is there. -/
def ComesTo (fs : FileSystem) (here : Location) (path : String) (l : Location) : Prop :=
  ∃ e, fs.find true here path = .ok ⟨l, e⟩

theorem find_eq_of_alikeBut (hfs : AlikeBut l fs fs') {spot : Spot}
    (hfind : fs.find true here path = .ok spot) (hpath : ¬fs.ComesTo here path l) :
    fs'.find true here path = .ok spot := by
  have hends := find_of_alikeBut hfs true here path
  rw [hfind] at hends
  generalize hr : fs'.find true here path = r at hends
  cases hends with
  | same => rfl
  | there e e' => exact absurd ⟨e, hfind⟩ hpath

theorem entryAt_eq_of_alikeBut (hfs : AlikeBut l fs fs') (hpath : ¬fs.ComesTo here path l) :
    fs'.entryAt here path = fs.entryAt here path := by
  unfold entryAt
  have hends := find_of_alikeBut hfs true here path
  generalize hr : fs.find true here path = r at hends
  generalize fs'.find true here path = r' at hends
  cases hends with
  | same => rfl
  | there e e' => exact absurd ⟨e, hr⟩ hpath
  | broken h h' => rcases h with rfl | rfl <;> rcases h' with rfl | rfl <;> rfl

theorem find_eq_tooManyLinks_iff (hfs : AlikeBut l fs fs') (follow : Bool) (here : Location)
    (path : String) : fs'.find follow here path = .error .tooManyLinks ↔
      fs.find follow here path = .error .tooManyLinks := by
  have hends := find_of_alikeBut hfs follow here path
  generalize fs.find follow here path = r at hends
  generalize fs'.find follow here path = r' at hends
  cases hends with
  | same => rfl
  | there e e' => exact iff_of_false (by nofun) (by nofun)
  | broken h h' => rcases h with rfl | rfl <;> rcases h' with rfl | rfl <;> simp

/-! ### Resolving -/

section Resolving

variable {onLink onLink' : List Location → Location → List String → Resolved}
  {pending : List Location}

theorem resolveStep_of_link {target : String} (hname : name ≠ "." ∧ name ≠ "..")
    (hentry : fs.get? (here ++ [name]) = some (.link target)) :
    fs.resolveStep onLink pending here (name :: rest) =
      if pending.contains (here ++ [name]) then
        ⟨(here ++ [name]).steps (rest.filter (· != ".")), false⟩
      else
        let reached := onLink ((here ++ [name]) :: pending) (startOf here target) (walkNames target)
        if reached.complete then fs.resolveStep onLink pending reached.location rest
        else ⟨reached.location.steps (rest.filter (· != ".")), false⟩ := by
  rw [resolveStep, if_neg (by simpa using hname.1), if_neg (by simpa using hname.2)]
  simp only [hentry]

theorem resolveStep_of_not_link (hname : name ≠ "." ∧ name ≠ "..")
    (hentry : ∀ target, fs.get? (here ++ [name]) ≠ some (.link target)) :
    fs.resolveStep onLink pending here (name :: rest) =
      fs.resolveStep onLink pending (here ++ [name]) rest := by
  rw [resolveStep, if_neg (by simpa using hname.1), if_neg (by simpa using hname.2)]
  dsimp only
  split
  next target hlink => exact absurd hlink (hentry target)
  next => rfl

/-- The two have the same links. -/
def SameLinks (fs fs' : FileSystem) : Prop :=
  ∀ k target, fs'.get? k = some (.link target) ↔ fs.get? k = some (.link target)

def IsLink (fs : FileSystem) (k : Location) : Prop :=
  ∃ target, fs.get? k = some (.link target)

theorem resolveStep_eq_of_sameLinks (hlinks : SameLinks fs fs')
    (honLink : ∀ k, fs.IsLink k → k ∉ pending → onLink' (k :: pending) = onLink (k :: pending))
    (here : Location) (names : List String) :
    fs'.resolveStep onLink' pending here names = fs.resolveStep onLink pending here names := by
  induction names generalizing here with
  | nil => rfl
  | cons name rest ih =>
    by_cases hdot : name = "."
    · subst hdot
      exact ih here
    by_cases habove : name = ".."
    · subst habove
      exact ih here.dropLast
    by_cases hlink : fs.IsLink (here ++ [name])
    · obtain ⟨target, hentry⟩ := id hlink
      rw [resolveStep_of_link ⟨hdot, habove⟩ hentry,
        resolveStep_of_link ⟨hdot, habove⟩ ((hlinks _ _).mpr hentry)]
      split
      case isTrue => rfl
      case isFalse hpending =>
        rw [honLink _ hlink (by simpa using hpending)]
        dsimp only
        rw [ih]
    · have hentry (target : String) : fs.get? (here ++ [name]) ≠ some (.link target) :=
        fun h => hlink ⟨target, h⟩
      rw [resolveStep_of_not_link ⟨hdot, habove⟩ hentry,
        resolveStep_of_not_link ⟨hdot, habove⟩ fun target h => hentry target ((hlinks _ _).mp h)]
      exact ih _

theorem length_le_of_isLink (hnodup : pending.Nodup) (h : ∀ k ∈ pending, fs.IsLink k) :
    pending.length ≤ fs.entries.length := by
  have hsubset : pending ⊆ fs.entries.map Prod.fst := by
    intro k hk
    obtain ⟨target, hentry⟩ := h k hk
    unfold get? at hentry
    split at hentry
    · cases hentry
    · obtain ⟨before, after, hsplit, -⟩ := List.lookup_eq_some_iff.mp hentry
      simp [hsplit]
  simpa using (List.subperm_of_subset hnodup hsubset).length_le

/-- A depth that exceeds the number of entries is never used up: at each level one more of them, a link
that is not pending yet, is. -/
theorem resolve_eq_of_sameLinks (hlinks : SameLinks fs fs') {depth depth' : Nat}
    (hnodup : pending.Nodup) (hpending : ∀ k ∈ pending, fs.IsLink k)
    (hdepth : fs.entries.length < depth + pending.length)
    (hdepth' : fs'.entries.length < depth' + pending.length) :
    fs'.resolve depth' pending = fs.resolve depth pending := by
  induction depth generalizing depth' pending with
  | zero =>
    have hle := length_le_of_isLink hnodup hpending
    omega
  | succ depth ih =>
    cases depth' with
    | zero =>
      have hle := length_le_of_isLink hnodup fun k hk =>
        (hpending k hk).imp fun target => (hlinks k target).mpr
      omega
    | succ depth' =>
      funext here names
      refine resolveStep_eq_of_sameLinks hlinks (fun k hk hnew => ?_) here names
      refine ih (List.nodup_cons.mpr ⟨hnew, hnodup⟩) (List.forall_mem_cons.mpr ⟨hk, hpending⟩) ?_ ?_
      all_goals
        rw [List.length_cons]
        omega

theorem AlikeBut.sameLinks (h : AlikeBut l fs fs') : SameLinks fs fs' :=
  fun _ _ => ⟨h.symm.get?_link, h.get?_link⟩

theorem realLocation_eq_of_sameLinks (hlinks : SameLinks fs fs') (here : Location) (path : String) :
    fs'.realLocation here path = fs.realLocation here path := by
  have hresolve : fs'.resolve (fs'.entries.length + 1) [] = fs.resolve (fs.entries.length + 1) [] :=
    resolve_eq_of_sameLinks hlinks .nil (by simp) (by simp) (by simp)
  unfold realLocation
  rw [hresolve]

end Resolving

end MergeBench.FileSystem
