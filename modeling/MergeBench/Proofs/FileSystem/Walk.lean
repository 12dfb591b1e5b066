import MergeBench.FileSystem.Change

/-!
Walks as a relation: one constructor for each way in which a walk goes on or ends. It holds exactly
of what `walk` computes, so that facts about walks are proved by induction on the names that are met
and the links that are followed, in one case for each of them.
-/

namespace MergeBench.FileSystem

structure Names (name : String) : Prop where
  not_here : name ≠ "."
  not_above : name ≠ ".."
  not_long : ¬nameLimit < name.utf8ByteSize

/-- A walk from a location along some names, with at most so many links on the way. -/
inductive Walks (fs : FileSystem) (follow : Bool) :
    Nat → Location → List String → Except SystemError Spot → Prop
  | arrived (links : Nat) (here : Location) :
      Walks fs follow links here [] (.ok ⟨here, some .directory⟩)
  | here {links : Nat} {here : Location} {rest : List String} {r : Except SystemError Spot}
      (later : Walks fs follow links here rest r) : Walks fs follow links here ("." :: rest) r
  | above {links : Nat} {here : Location} {rest : List String} {r : Except SystemError Spot}
      (later : Walks fs follow links here.dropLast rest r) :
      Walks fs follow links here (".." :: rest) r
  | tooLong (links : Nat) (here : Location) {name : String} (rest : List String)
      (hname : name ≠ "." ∧ name ≠ "..") (hlong : nameLimit < name.utf8ByteSize) :
      Walks fs follow links here (name :: rest) (.error .nameTooLong)
  | free (links : Nat) {here : Location} {name : String} (hname : Names name)
      (hentry : fs.get? (here ++ [name]) = none) (hhere : fs.hasDirectory here = true) :
      Walks fs follow links here [name] (.ok ⟨here ++ [name], none⟩)
  | missing (links : Nat) {here : Location} {name : String} {rest : List String}
      (hname : Names name) (hentry : fs.get? (here ++ [name]) = none)
      (hend : rest ≠ [] ∨ fs.hasDirectory here = false) :
      Walks fs follow links here (name :: rest) (.error .noEntry)
  | directory {links : Nat} {here : Location} {name : String} {rest : List String}
      {r : Except SystemError Spot} (hname : Names name)
      (hentry : fs.get? (here ++ [name]) = some .directory)
      (later : Walks fs follow links (here ++ [name]) rest r) :
      Walks fs follow links here (name :: rest) r
  | file (links : Nat) {here : Location} {name : String} {content : Bytes} {executable : Bool}
      (hname : Names name) (hentry : fs.get? (here ++ [name]) = some (.file content executable)) :
      Walks fs follow links here [name] (.ok ⟨here ++ [name], some (.file content executable)⟩)
  | noDirectory (links : Nat) {here : Location} {name : String} {rest : List String}
      {content : Bytes} {executable : Bool} (hname : Names name)
      (hentry : fs.get? (here ++ [name]) = some (.file content executable)) (hend : rest ≠ []) :
      Walks fs follow links here (name :: rest) (.error .notDirectory)
  | link (links : Nat) {here : Location} {name target : String} (hname : Names name)
      (hentry : fs.get? (here ++ [name]) = some (.link target)) (hfollow : follow = false) :
      Walks fs follow links here [name] (.ok ⟨here ++ [name], some (.link target)⟩)
  | tooManyLinks {here : Location} {name target : String} {rest : List String} (hname : Names name)
      (hentry : fs.get? (here ++ [name]) = some (.link target)) (hend : rest ≠ [] ∨ follow = true) :
      Walks fs follow 0 here (name :: rest) (.error .tooManyLinks)
  | followed {links : Nat} {here : Location} {name target : String} {rest : List String}
      {r : Except SystemError Spot} (hname : Names name)
      (hentry : fs.get? (here ++ [name]) = some (.link target)) (hend : rest ≠ [] ∨ follow = true)
      (later : Walks fs follow links (startOf here target) (walkNames target ++ rest) r) :
      Walks fs follow (links + 1) here (name :: rest) r

variable {fs : FileSystem} {follow : Bool} {links : Nat} {here : Location} {names : List String}
  {r : Except SystemError Spot}

/-! ### The relation and the function -/

theorem walkStep_of_names {onLink : Location → List String → Except SystemError Spot} {name : String}
    (hname : Names name) (here : Location) (rest : List String) :
    fs.walkStep follow onLink here (name :: rest) =
      match fs.get? (here ++ [name]) with
      | none =>
        if rest.isEmpty && fs.hasDirectory here then .ok ⟨here ++ [name], none⟩ else .error .noEntry
      | some .directory => fs.walkStep follow onLink (here ++ [name]) rest
      | some (.file content executable) =>
        if rest.isEmpty then .ok ⟨here ++ [name], some (.file content executable)⟩
        else .error .notDirectory
      | some (.link target) =>
        if rest.isEmpty && !follow then .ok ⟨here ++ [name], some (.link target)⟩
        else onLink (startOf here target) (walkNames target ++ rest) := by
  refine (if_neg ?_).trans ((if_neg ?_).trans (if_neg hname.not_long))
  · simpa using hname.not_here
  · simpa using hname.not_above

theorem walks_walkStep {onLink : Location → List String → Except SystemError Spot}
    (hlink : ∀ {here : Location} {name target : String} {rest : List String}, Names name →
      fs.get? (here ++ [name]) = some (.link target) → (rest ≠ [] ∨ follow = true) →
      Walks fs follow links here (name :: rest) (onLink (startOf here target) (walkNames target ++ rest)))
    (here : Location) (names : List String) :
    Walks fs follow links here names (fs.walkStep follow onLink here names) := by
  induction names generalizing here with
  | nil => exact .arrived links here
  | cons name rest ih =>
    by_cases hdot : name = "."
    · subst hdot
      exact .here (ih here)
    by_cases habove : name = ".."
    · subst habove
      exact .above (ih here.dropLast)
    by_cases hlong : nameLimit < name.utf8ByteSize
    · simp only [walkStep, beq_iff_eq, hdot, habove, hlong, ↓reduceIte]
      exact .tooLong links here rest ⟨hdot, habove⟩ hlong
    · have hname : Names name := ⟨hdot, habove, hlong⟩
      rw [walkStep_of_names hname]
      cases hentry : fs.get? (here ++ [name]) with
      | none =>
        dsimp only
        split
        case isTrue hfree =>
          rw [Bool.and_eq_true, List.isEmpty_iff] at hfree
          obtain ⟨rfl, hhere⟩ := hfree
          exact .free links hname hentry hhere
        case isFalse hmissing =>
          refine .missing links hname hentry ?_
          rw [Bool.not_eq_true, Bool.and_eq_false_iff, List.isEmpty_eq_false_iff] at hmissing
          exact hmissing
      | some entry =>
        cases entry with
        | directory => exact .directory hname hentry (ih (here ++ [name]))
        | file content executable =>
          dsimp only
          split
          case isTrue hrest =>
            rw [List.isEmpty_iff] at hrest
            subst hrest
            exact .file links hname hentry
          case isFalse hrest =>
            rw [List.isEmpty_iff] at hrest
            exact .noDirectory links hname hentry hrest
        | link target =>
          dsimp only
          split
          case isTrue hrest =>
            rw [Bool.and_eq_true, List.isEmpty_iff, Bool.not_eq_true'] at hrest
            obtain ⟨rfl, rfl⟩ := hrest
            exact .link links hname hentry rfl
          case isFalse hrest =>
            rw [Bool.not_eq_true, Bool.and_eq_false_iff, List.isEmpty_eq_false_iff,
              Bool.not_eq_false'] at hrest
            exact hlink hname hentry hrest

theorem walks_walk (fs : FileSystem) (follow : Bool) (links : Nat) (here : Location)
    (names : List String) : Walks fs follow links here names (fs.walk follow links here names) := by
  induction links generalizing here names with
  | zero => exact walks_walkStep .tooManyLinks here names
  | succ links ih =>
    exact walks_walkStep (fun hname hentry hend => .followed hname hentry hend (ih _ _)) here names

/-- What a walk does at a link that it follows. -/
def atLink (fs : FileSystem) (follow : Bool) :
    Nat → Location → List String → Except SystemError Spot
  | 0 => fun _ _ => .error .tooManyLinks
  | links + 1 => fs.walk follow links

theorem walk_eq (fs : FileSystem) (follow : Bool) (links : Nat) :
    fs.walk follow links = fs.walkStep follow (fs.atLink follow links) := by
  cases links <;> rfl

theorem Walks.walk_eq (h : Walks fs follow links here names r) :
    fs.walk follow links here names = r := by
  induction h with
  | arrived => rw [FileSystem.walk_eq, walkStep]
  | here later ih =>
    rw [FileSystem.walk_eq] at ih ⊢
    simpa [walkStep] using ih
  | above later ih =>
    rw [FileSystem.walk_eq] at ih ⊢
    simpa [walkStep] using ih
  | tooLong links here rest hname hlong =>
    rw [FileSystem.walk_eq, walkStep]
    simp [hname, hlong]
  | directory hname hentry later ih =>
    rw [FileSystem.walk_eq] at ih ⊢
    simpa [walkStep_of_names hname, hentry] using ih
  | free links hname hentry h | noDirectory links hname hentry h | link links hname hentry h =>
    rw [FileSystem.walk_eq, walkStep_of_names hname, hentry]
    simp [h]
  | missing links hname hentry hend =>
    rw [FileSystem.walk_eq, walkStep_of_names hname, hentry]
    rcases hend with hend | hend <;> simp [hend]
  | file links hname hentry =>
    rw [FileSystem.walk_eq, walkStep_of_names hname, hentry]
    rfl
  | tooManyLinks hname hentry hend =>
    rw [FileSystem.walk_eq, walkStep_of_names hname, hentry]
    rcases hend with hend | hend <;> simp [hend, atLink]
  | followed hname hentry hend later ih =>
    rw [FileSystem.walk_eq, walkStep_of_names hname, hentry]
    rcases hend with hend | hend <;> simpa [hend, atLink] using ih

theorem walks_iff : Walks fs follow links here names r ↔ fs.walk follow links here names = r :=
  ⟨Walks.walk_eq, fun h => h ▸ walks_walk ..⟩

/-! ### What a walk comes to -/

theorem Walks.error_cases {e : SystemError} (h : Walks fs follow links here names (.error e)) :
    e = .noEntry ∨ e = .notDirectory ∨ e = .tooManyLinks ∨ e = .nameTooLong := by
  generalize hr : Except.error e = r at h
  induction h with
  | here later ih | above later ih | directory _ _ later ih | followed _ _ _ later ih => exact ih hr
  | tooLong | missing | noDirectory | tooManyLinks =>
    cases hr
    simp
  | arrived | free | file | link => cases hr

theorem find_error_cases {path : String} {e : SystemError}
    (h : fs.find follow here path = .error e) :
    e = .noEntry ∨ e = .notDirectory ∨ e = .tooManyLinks ∨ e = .nameTooLong := by
  unfold find at h
  split at h
  · cases h
    simp
  · split at h
    · cases h
      simp
    · exact (walks_iff.mpr h).error_cases

/-- A walk that does not end at a directory ends at an entry of the table, or a free place in it. -/
theorem Walks.entry_eq {spot : Spot} (h : Walks fs follow links here names (.ok spot))
    (hentry : spot.entry ≠ some .directory) :
    spot.location ≠ [] ∧ fs.get? spot.location = spot.entry := by
  generalize hr : Except.ok spot = r at h
  induction h with
  | here later ih | above later ih | directory _ _ later ih | followed _ _ _ later ih => exact ih hr
  | tooLong | missing | noDirectory | tooManyLinks => cases hr
  | arrived =>
    cases hr
    exact absurd rfl hentry
  | free _ _ h' | file _ _ h' | link _ _ h' =>
    cases hr
    exact ⟨by simp, h'⟩

/-- A path that is found is neither empty nor too long. -/
theorem walks_of_find {path : String} {spot : Spot} (h : fs.find follow here path = .ok spot) :
    (∀ (fs' : FileSystem) (follow' : Bool), fs'.find follow' here path =
        fs'.walk follow' linkLimit (startOf here path) (walkNames path)) ∧
      Walks fs follow linkLimit (startOf here path) (walkNames path) (.ok spot) := by
  unfold find at h
  split at h
  · cases h
  next hempty =>
  split at h
  · cases h
  next hlong => exact ⟨fun fs' follow' => by rw [find, if_neg hempty, if_neg hlong], walks_iff.mpr h⟩

theorem find_entry_eq {path : String} {spot : Spot} (h : fs.find follow here path = .ok spot)
    (hentry : spot.entry ≠ some .directory) :
    spot.location ≠ [] ∧ fs.get? spot.location = spot.entry :=
  (walks_of_find h).2.entry_eq hentry

/-! ### Walks after a change -/

/-- All directories and links away from one location are still there. -/
def KeepsWays (fs fs' : FileSystem) (l : Location) : Prop :=
  ∀ k e, k ≠ l → fs.get? k = some e → (∀ content executable, e ≠ .file content executable) →
    fs'.get? k = some e

/-- With a file put in place of what a walk led to, the same walk leads to the file, unless what was
there is a link and the walk came through it. -/
theorem Walks.of_keepsWays {fs' : FileSystem} {l : Location} {e : Option Entry} {content : Bytes}
    {executable : Bool} (h : Walks fs false links here names (.ok ⟨l, e⟩))
    (he : e ≠ some .directory) (hways : KeepsWays fs fs' l)
    (hfile : fs'.get? l = some (.file content executable)) (follow : Bool) :
    Walks fs' follow links here names (.ok ⟨l, some (.file content executable)⟩) ∨
      (∃ target, fs.get? l = some (.link target)) ∧
        Walks fs' follow links here names (.error .notDirectory) := by
  generalize hr : Except.ok (Spot.mk l e) = r at h
  induction h with
  | here later ih => exact (ih hr).imp .here (And.imp_right .here)
  | above later ih => exact (ih hr).imp .above (And.imp_right .above)
  | tooLong | missing | noDirectory | tooManyLinks => cases hr
  | arrived =>
    cases hr
    exact absurd rfl he
  | free links hname | file links hname | link links hname =>
    cases hr
    exact .inl (.file links hname hfile)
  | @directory links here name rest r hname hentry later ih =>
    subst hr
    have hne : here ++ [name] ≠ l := by
      rintro rfl
      exact he ((later.entry_eq he).2.symm.trans hentry)
    have hentry' := hways _ _ hne hentry (by nofun)
    exact (ih rfl).imp (.directory hname hentry') (And.imp_right (.directory hname hentry'))
  | @followed links here name target rest r hname hentry hend later ih =>
    have hrest : rest ≠ [] := hend.resolve_right (by nofun)
    by_cases hl : here ++ [name] = l
    · subst hl
      exact .inr ⟨⟨target, hentry⟩, .noDirectory _ hname hfile hrest⟩
    · have hentry' := hways _ _ hl hentry (by nofun)
      exact (ih hr).imp (.followed hname hentry' (.inl hrest))
        (And.imp_right (.followed hname hentry' (.inl hrest)))

theorem find_of_keepsWays {fs' : FileSystem} {path : String} {l : Location} {e : Option Entry}
    {content : Bytes} {executable : Bool} (h : fs.find false here path = .ok ⟨l, e⟩)
    (he : e ≠ some .directory) (hways : KeepsWays fs fs' l)
    (hfile : fs'.get? l = some (.file content executable)) (follow : Bool) :
    fs'.find follow here path = .ok ⟨l, some (.file content executable)⟩ ∨
      (∃ target, fs.get? l = some (.link target)) ∧
        fs'.find follow here path = .error .notDirectory := by
  obtain ⟨hfind, hwalks⟩ := walks_of_find h
  rw [hfind]
  exact (hwalks.of_keepsWays he hways hfile follow).imp Walks.walk_eq (And.imp_right Walks.walk_eq)

theorem Walks.hasDirectory_of_free {l : Location}
    (h : Walks fs follow links here names (.ok ⟨l, none⟩)) : fs.hasDirectory l.dropLast = true := by
  generalize hr : Except.ok (Spot.mk l none) = r at h
  induction h with
  | here later ih | above later ih | directory _ _ later ih | followed _ _ _ later ih => exact ih hr
  | arrived | tooLong | missing | file | noDirectory | link | tooManyLinks => cases hr
  | free links hname hentry hhere =>
    cases hr
    rwa [List.dropLast_concat]

/-- Before a file was put at a free place, the same walk led to the same location. -/
theorem Walks.before_filled {fs' : FileSystem} {k l : Location} {e : Option Entry} {content : Bytes}
    {executable : Bool} (h : Walks fs' follow links here names (.ok ⟨k, e⟩))
    (he : e ≠ some .directory) (hfree : fs.get? l = none) (hhere : fs.hasDirectory l.dropLast = true)
    (hfs' : ∀ j, fs'.get? j = if j = l then some (.file content executable) else fs.get? j) :
    Walks fs follow links here names (.ok ⟨k, if k = l then none else e⟩) := by
  -- what is no file is as it was before
  have hbefore {j : Location} {d : Option Entry} (hd : fs'.get? j = d)
      (hfile : ∀ content executable, d ≠ some (.file content executable)) :
      j ≠ l ∧ fs.get? j = d := by
    rw [hfs'] at hd
    split at hd
    case isTrue => exact absurd hd.symm (hfile _ _)
    case isFalse hne => exact ⟨hne, hd⟩
  generalize hr : Except.ok (Spot.mk k e) = r at h
  induction h with
  | here later ih => exact .here (ih hr)
  | above later ih => exact .above (ih hr)
  | tooLong | missing | noDirectory | tooManyLinks => cases hr
  | arrived =>
    cases hr
    exact absurd rfl he
  | @free links here name hname hentry hthere =>
    cases hr
    obtain ⟨hne, hentry'⟩ := hbefore hentry (by nofun)
    rw [if_neg hne]
    refine .free links hname hentry' ?_
    unfold hasDirectory at hthere ⊢
    rw [Bool.or_eq_true] at hthere ⊢
    exact hthere.imp_right fun h => by rw [beq_iff_eq] at h ⊢; exact (hbefore h (by nofun)).2
  | directory hname hentry later ih => exact .directory hname (hbefore hentry (by nofun)).2 (ih hr)
  | @file links here name content' executable' hname hentry =>
    cases hr
    split
    case isTrue heq =>
      rw [← heq] at hfree hhere
      exact .free links hname hfree (by rwa [List.dropLast_concat] at hhere)
    case isFalse hne =>
      rw [hfs', if_neg hne] at hentry
      exact .file links hname hentry
  | link links hname hentry hfollow =>
    cases hr
    obtain ⟨hne, hentry'⟩ := hbefore hentry (by nofun)
    rw [if_neg hne]
    exact .link links hname hentry' hfollow
  | followed hname hentry hend later ih =>
    exact .followed hname (hbefore hentry (by nofun)).2 hend (ih hr)

theorem find_before_filled {fs' : FileSystem} {path free : String} {follow' : Bool} {k l : Location}
    {e : Option Entry} {content : Bytes} {executable : Bool}
    (h : fs'.find follow here path = .ok ⟨k, e⟩) (he : e ≠ some .directory)
    (hfree : fs.find follow' here free = .ok ⟨l, none⟩)
    (hfs' : ∀ j, fs'.get? j = if j = l then some (.file content executable) else fs.get? j) :
    fs.find follow here path = .ok ⟨k, if k = l then none else e⟩ := by
  obtain ⟨hfind, hwalks⟩ := walks_of_find h
  rw [hfind]
  exact (hwalks.before_filled he (find_entry_eq hfree (by nofun)).2
    (walks_of_find hfree).2.hasDirectory_of_free hfs').walk_eq

end MergeBench.FileSystem
