import MergeBench.FileSystem.Walk

namespace MergeBench

variable {s : String} {p q : Path} {names : List String}

theorem not_mem_of_mem_splitOn {α : Type} [BEq α] [LawfulBEq α] {x : α} {xs piece : List α}
    (h : piece ∈ xs.splitOn x) : x ∉ piece := by
  induction xs generalizing piece with
  | nil => simp_all
  | cons y ys ih =>
    rw [List.splitOn_cons_eq_if_modifyHead] at h
    split at h
    · rcases List.mem_cons.mp h with rfl | h
      · simp
      · exact ih h
    · cases hsplit : ys.splitOn x with
      | nil => simp [hsplit] at h
      | cons first later =>
        rw [hsplit] at ih
        rw [hsplit, List.modifyHead_cons, List.mem_cons] at h
        rcases h with rfl | h
        · rintro (_ | ⟨_, hmem⟩)
          · simp_all
          · exact ih List.mem_cons_self hmem
        · exact ih (List.mem_cons_of_mem _ h)

namespace Path

structure IsName (name : String) : Prop where
  nonempty : name ≠ ""
  not_here : name ≠ "."
  no_slash : '/' ∉ name.toList

def Proper (p : Path) : Prop :=
  ∀ name ∈ p.names, IsName name

theorem proper_ofString (s : String) : (ofString s).Proper := by
  intro name hname
  simp only [ofString, namesOf, List.mem_filter, List.mem_map, Bool.and_eq_true, bne_iff_ne] at hname
  obtain ⟨⟨piece, hpiece, rfl⟩, hempty, hhere⟩ := hname
  exact ⟨hempty, hhere, by simpa using not_mem_of_mem_splitOn hpiece⟩

theorem Proper.join (hp : p.Proper) (hq : q.Proper) : (p.join q).Proper := by
  unfold Path.join
  split
  · exact hq
  · intro name hname
    exact (List.mem_append.mp hname).elim (hp name) (hq name)

/-! ### The names in a text -/

theorem splitOn_intercalate (h : ∀ name ∈ names, '/' ∉ name.toList) (hne : names ≠ []) :
    ("/".intercalate names).toList.splitOn '/' = names.map String.toList := by
  rw [String.toList_intercalate]
  exact List.splitOn_intercalate '/' (by simpa using h) (by simpa using hne)

theorem namesOf_intercalate (h : ∀ name ∈ names, IsName name) :
    namesOf ("/".intercalate names) = names := by
  unfold namesOf
  by_cases hne : names = []
  · subst hne
    rfl
  · rw [splitOn_intercalate (fun name hname => (h name hname).no_slash) hne, List.map_map]
    have hkeep : ∀ name ∈ names, (name != "" && name != ".") = true := fun name hname => by
      simp [(h name hname).nonempty, (h name hname).not_here]
    simpa [Function.comp_def] using List.filter_eq_self.mpr hkeep

theorem namesOf_slash (s : String) : namesOf ("/" ++ s) = namesOf s := by
  unfold namesOf
  simp [List.splitOn_cons_eq_if_modifyHead]

theorem text_eq (h : p.isAbsolute = true ∨ p.names ≠ []) :
    p.text = p.anchor.text ++ "/".intercalate p.names := by
  unfold text
  rcases h with h | h
  · simp [isAbsolute] at h
    simp [h]
  · simp [h]

theorem text_of_relative_nil (h : p.anchor = .relative) (hnames : p.names = []) : p.text = "." := by
  simp [text, h, hnames]

theorem namesOf_text (h : p.Proper) : namesOf p.text = p.names := by
  obtain ⟨anchor, names⟩ := p
  by_cases hwhole : Path.isAbsolute ⟨anchor, names⟩ = true ∨ names ≠ []
  · rw [text_eq hwhole]
    cases anchor with
    | relative => simpa [Anchor.text] using namesOf_intercalate h
    | root => rw [Anchor.text, namesOf_slash, namesOf_intercalate h]
    | doubleRoot =>
      rw [Anchor.text, show "//" = "/" ++ "/" from rfl, String.append_assoc, namesOf_slash,
        namesOf_slash, namesOf_intercalate h]
  · simp only [isAbsolute, bne_iff_ne, not_or, ne_eq, Decidable.not_not] at hwhole
    obtain ⟨rfl, rfl⟩ := hwhole
    rw [text_of_relative_nil rfl rfl]
    rfl

/-- No name begins with a slash. -/
theorem head?_intercalate (h : ∀ name ∈ names, IsName name) :
    ("/".intercalate names).toList.head? ≠ some '/' := by
  cases names with
  | nil => simp
  | cons name rest =>
    have hname := h name List.mem_cons_self
    obtain ⟨first, others, hchars⟩ : ∃ first others, name.toList = first :: others :=
      List.exists_cons_of_ne_nil (by simpa using hname.nonempty)
    have hfirst : first ≠ '/' := by
      rintro rfl
      exact hname.no_slash (by simp [hchars])
    cases rest <;> simp [hchars, hfirst]

theorem anchorOf_of_head? {cs : List Char} (h : cs.head? ≠ some '/') : anchorOf cs = .relative := by
  rcases cs with _ | ⟨c, cs⟩
  · rfl
  · simp_all [anchorOf]

theorem anchorOf_slash {cs : List Char} (h : cs.head? ≠ some '/') : anchorOf ('/' :: cs) = .root := by
  rcases cs with _ | ⟨c, cs⟩
  · rfl
  · simp_all [anchorOf]

theorem anchorOf_slashes {cs : List Char} (h : cs.head? ≠ some '/') :
    anchorOf ('/' :: '/' :: cs) = .doubleRoot := by
  rcases cs with _ | ⟨c, cs⟩
  · rfl
  · simp_all [anchorOf]

theorem ofString_text (h : p.Proper) : ofString p.text = p := by
  have hnames := namesOf_text h
  have hhead := head?_intercalate h
  obtain ⟨anchor, names⟩ := p
  simp only [ofString, Path.mk.injEq]
  refine ⟨?_, hnames⟩
  by_cases hwhole : Path.isAbsolute ⟨anchor, names⟩ = true ∨ names ≠ []
  · rw [text_eq hwhole, String.toList_append]
    cases anchor with
    | relative => exact anchorOf_of_head? hhead
    | root => simpa [Anchor.text] using anchorOf_slash hhead
    | doubleRoot => simpa [Anchor.text] using anchorOf_slashes hhead
  · simp only [isAbsolute, bne_iff_ne, not_or, ne_eq, Decidable.not_not] at hwhole
    obtain ⟨rfl, rfl⟩ := hwhole
    rfl

theorem ofString_name {name : String} (h : IsName name) : ofString name = ⟨.relative, [name]⟩ := by
  have htext : Path.text ⟨.relative, [name]⟩ = name := by
    rw [text_eq (.inr (by simp))]
    simp [Anchor.text]
  have hproper : Path.Proper ⟨.relative, [name]⟩ := by simpa [Proper] using h
  rw [← ofString_text hproper, htext]

theorem join_ofString_name {name : String} (h : IsName name) (p : Path) :
    p.join (ofString name) = ⟨p.anchor, p.names ++ [name]⟩ := by
  rw [ofString_name h]
  rfl

theorem walkNames_slash (s : String) : FileSystem.walkNames ("/" ++ s) = FileSystem.walkNames s := by
  obtain ⟨first, later, hsplit⟩ : ∃ first later, s.toList.splitOn '/' = first :: later :=
    List.exists_cons_of_ne_nil (List.splitOn_ne_nil '/' s.toList)
  unfold FileSystem.walkNames
  simp [List.splitOn_cons_eq_if_modifyHead, hsplit]

theorem walkNames_intercalate (h : ∀ name ∈ names, IsName name) :
    FileSystem.walkNames ("/".intercalate names) = names := by
  by_cases hne : names = []
  · subst hne
    rfl
  · have hkeep : names.filter (· != "") = names :=
      List.filter_eq_self.mpr fun name hname => by simp [(h name hname).nonempty]
    have hlast : names.getLast? ≠ some "" := fun hlast =>
      (h "" (List.mem_of_getLast? hlast)).nonempty rfl
    unfold FileSystem.walkNames
    rw [splitOn_intercalate (fun name hname => (h name hname).no_slash) hne]
    simp [List.map_map, Function.comp_def, hkeep, hlast]

/-- The system reads the same names in the text of a path, unless that is the dot for no names at all. -/
theorem walkNames_text (h : p.Proper) (hwhole : p.isAbsolute = true ∨ p.names ≠ []) :
    FileSystem.walkNames p.text = p.names := by
  rw [text_eq hwhole]
  obtain ⟨anchor, names⟩ := p
  cases anchor with
  | relative => rw [Anchor.text, String.empty_append, walkNames_intercalate h]
  | root => rw [Anchor.text, walkNames_slash, walkNames_intercalate h]
  | doubleRoot =>
    rw [Anchor.text, show "//" = "/" ++ "/" from rfl, String.append_assoc, walkNames_slash,
      walkNames_slash, walkNames_intercalate h]

/-- A walk along the text of a path starts at the root or where it is started. -/
theorem startOf_text (h : p.Proper) (here : Location) :
    FileSystem.startOf here p.text = if p.isAbsolute then [] else here := by
  have hhead := head?_intercalate h
  unfold FileSystem.startOf
  by_cases hwhole : p.isAbsolute = true ∨ p.names ≠ []
  · rw [text_eq hwhole, String.toList_append]
    obtain ⟨anchor, names⟩ := p
    cases anchor with
    | relative =>
      rw [if_neg (by simpa [Anchor.text] using hhead)]
      simp [isAbsolute]
    | root | doubleRoot => simp [Anchor.text, isAbsolute]
  · simp only [isAbsolute, bne_iff_ne, not_or, ne_eq, Decidable.not_not] at hwhole
    obtain ⟨hrelative, hnames⟩ := hwhole
    rw [text_of_relative_nil hrelative hnames]
    simp [isAbsolute, hrelative]

end Path

end MergeBench
