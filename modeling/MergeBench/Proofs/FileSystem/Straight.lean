import MergeBench.Proofs.FileSystem.Touch
import MergeBench.Proofs.Path

/-!
Straight ways. Where no name of a path is `..` and no link lies on the way, the path leads to the location
that its names spell out. What is touched on behalf of such a path lies on the way to it, so that of two
paths that are apart neither can take the place of the other.
-/

namespace MergeBench

variable {p q : Path} {here l k : Location}

namespace Path

instance (p q : Path) : Decidable (p.Begins q) :=
  decidable_of_iff (p.anchor = q.anchor ∧ p.names <+: q.names)
    ⟨fun ⟨hanchor, hnames⟩ => ⟨hanchor, hnames⟩, fun h => ⟨h.anchor, h.names⟩⟩

/-- The paths are different, and neither of them is above the other. -/
def Apart (p q : Path) : Prop :=
  ¬p.Begins q ∧ ¬q.Begins p

instance (p q : Path) : Decidable (p.Apart q) :=
  inferInstanceAs (Decidable (¬p.Begins q ∧ ¬q.Begins p))

theorem Apart.ne (h : p.Apart q) : p ≠ q := by
  rintro rfl
  exact h.1 (.refl p)

/-- The location that the names of the path spell out, seen from a directory. -/
def locationFrom (p : Path) (here : Location) : Location :=
  (if p.isAbsolute then [] else here) ++ p.names

theorem Begins.locationFrom_prefix (h : p.Begins q) (here : Location) :
    p.locationFrom here <+: q.locationFrom here := by
  unfold locationFrom isAbsolute
  rw [h.anchor]
  exact (List.prefix_append_right_inj _).mpr h.names

theorem begins_of_locationFrom_prefix (hanchor : p.anchor = q.anchor)
    (h : p.locationFrom here <+: q.locationFrom here) : p.Begins q := by
  unfold locationFrom isAbsolute at h
  rw [hanchor] at h
  exact ⟨hanchor, (List.prefix_append_right_inj _).mp h⟩

end Path

namespace FileSystem

variable {fs fs' : FileSystem} {follow : Bool} {links : Nat} {names : List String} {e : Option Entry}
  {paths : Path → Prop}

/-- No link lies on the way to the location. -/
def Straight (fs : FileSystem) (l : Location) : Prop :=
  ∀ k target, k <+: l → fs.get? k ≠ some (.link target)

theorem Straight.of_prefix (h : fs.Straight l) (hk : k <+: l) : fs.Straight k :=
  fun j target hj => h j target (hj.trans hk)

/-- Whatever is touched, no link comes into being. -/
theorem Touches.get?_link {target : String} (h : fs.Touches here paths fs')
    (hlink : fs'.get? l = some (.link target)) : fs.get? l = some (.link target) := by
  refine Decidable.byContradiction fun hne => ?_
  obtain ⟨p, -, htouched⟩ := h.touchedFor l fun hsame => hne (hsame.symm.trans hlink)
  cases htouched with
  | file hleads =>
    have hfile := (find_entry_eq hleads (by nofun)).2
    rw [hlink] at hfile
    cases hfile
  | directory _ _ hmade =>
    rw [hlink] at hmade
    cases hmade

theorem Straight.of_touches (h : fs.Straight l) (htouches : fs.Touches here paths fs') :
    fs'.Straight l :=
  fun k target hk hlink => h k target hk (htouches.get?_link hlink)

theorem Walks.location_eq (h : Walks fs follow links here names (.ok ⟨l, e⟩)) (habove : ".." ∉ names)
    (hstraight : fs.Straight (here ++ names.filter (· ≠ "."))) :
    l = here ++ names.filter (· ≠ ".") := by
  -- the next name that is no dot comes behind the location of the walk
  have hnext {here : Location} {name : String} {rest : List String} (hname : Names name) :
      here ++ (name :: rest).filter (· ≠ ".") = (here ++ [name]) ++ rest.filter (· ≠ ".") := by
    simp [hname.not_here]
  generalize hr : Except.ok (Spot.mk l e) = r at h
  induction h with
  | tooLong | missing | noDirectory | tooManyLinks => cases hr
  | arrived =>
    cases hr
    exact (List.append_nil _).symm
  | here later ih =>
    have hdot {rest : List String} : ("." :: rest).filter (· ≠ ".") = rest.filter (· ≠ ".") := by simp
    rw [hdot] at hstraight ⊢
    exact ih (fun hmem => habove (List.mem_cons_of_mem _ hmem)) hstraight hr
  | above later ih => exact absurd List.mem_cons_self habove
  | free _ hname | file _ hname | link _ hname =>
    cases hr
    rw [hnext hname]
    exact (List.append_nil _).symm
  | directory hname hentry later ih =>
    rw [hnext hname] at hstraight ⊢
    exact ih (fun hmem => habove (List.mem_cons_of_mem _ hmem)) hstraight hr
  | followed hname hentry hend later ih =>
    rw [hnext hname] at hstraight
    exact absurd hentry (hstraight _ _ (List.prefix_append _ _))

end FileSystem

/-- Seen from a directory, no name of the path leads up, and no link lies on the way to it. -/
structure Path.StraightFrom (p : Path) (fs : FileSystem) (here : Location) : Prop where
  proper : p.Proper
  not_above : ".." ∉ p.names
  straight : fs.Straight (p.locationFrom here)

namespace Path.StraightFrom

variable {fs fs' : FileSystem} {follow : Bool} {e : Option Entry} {paths : Path → Prop}

theorem of_begins (h : p.StraightFrom fs here) (hq : q.Begins p) : q.StraightFrom fs here where
  proper name hname := h.proper name (hq.names.subset hname)
  not_above hname := h.not_above (hq.names.subset hname)
  straight := h.straight.of_prefix (hq.locationFrom_prefix here)

theorem of_touches (h : p.StraightFrom fs here) (htouches : fs.Touches here paths fs') :
    p.StraightFrom fs' here :=
  ⟨h.proper, h.not_above, h.straight.of_touches htouches⟩

/-- The names that a walk meets are those of the path, but for the dot that stands for none. -/
theorem filter_walkNames (h : p.Proper) :
    (FileSystem.walkNames p.text).filter (· ≠ ".") = p.names := by
  by_cases hwhole : p.isAbsolute = true ∨ p.names ≠ []
  · rw [walkNames_text h hwhole]
    exact List.filter_eq_self.mpr fun name hname => by simpa using (h name hname).not_here
  · simp only [isAbsolute, bne_iff_ne, not_or, ne_eq, Decidable.not_not] at hwhole
    obtain ⟨hrelative, hnames⟩ := hwhole
    rw [text_of_relative_nil hrelative hnames, hnames]
    decide

theorem find_location (h : p.StraightFrom fs here)
    (hfind : fs.find follow here p.text = .ok ⟨l, e⟩) : l = p.locationFrom here := by
  have hwalks := (FileSystem.walks_of_find hfind).2
  have hlocation : FileSystem.startOf here p.text ++
      (FileSystem.walkNames p.text).filter (· ≠ ".") = p.locationFrom here := by
    rw [startOf_text h.proper, filter_walkNames h.proper, locationFrom]
  rw [← hlocation]
  refine hwalks.location_eq (fun hmem => h.not_above ?_) (hlocation ▸ h.straight)
  rw [← filter_walkNames h.proper]
  exact List.mem_filter.mpr ⟨hmem, by decide⟩

/-- What was touched on behalf of the path lies on the way to it: it is the end of the way, or a directory
that was missing. -/
theorem touchedFor (h : p.StraightFrom fs' here) (htouched : FileSystem.TouchedFor here fs fs' p l) :
    l <+: p.locationFrom here ∧
      (l = p.locationFrom here ∨ fs.get? l = none ∧ fs'.get? l = some .directory) := by
  cases htouched with
  | file hleads =>
    obtain rfl := h.find_location hleads
    exact ⟨List.prefix_rfl, .inl rfl⟩
  | directory hbegins hmissing hmade hleads =>
    obtain rfl := (h.of_begins hbegins).find_location hleads
    exact ⟨hbegins.locationFrom_prefix here, .inr ⟨hmissing, hmade⟩⟩

end Path.StraightFrom

end MergeBench
