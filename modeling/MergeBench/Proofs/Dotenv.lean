import Mathlib.Data.List.Induction
import Mathlib.Data.List.Nodup
import MergeBench.Dotenv
import MergeBench.Proofs.Environment

namespace MergeBench.Dotenv

variable {env : Environment} {known found before : List (String × Option String)}
  {binding : String × Option String} {name value : String} {written : Option String}

/-! ### The last binding of a name -/

/-- The last binding of the name is this one, and these are the bindings before it. -/
def LastBinding (found before : List (String × Option String)) (name : String)
    (written : Option String) : Prop :=
  ∃ after, found = before ++ (name, written) :: after ∧ ∀ b ∈ after, b.1 ≠ name

theorem not_lastBinding_nil : ¬LastBinding [] before name written := by
  rintro ⟨after, h, -⟩
  simp at h

theorem lastBinding_concat_iff :
    LastBinding (found ++ [binding]) before name written ↔
      before = found ∧ binding = (name, written) ∨
        binding.1 ≠ name ∧ LastBinding found before name written := by
  constructor
  · rintro ⟨after, h, hafter⟩
    rcases List.eq_nil_or_concat' after with rfl | ⟨rest, last, rfl⟩
    · obtain ⟨rfl, hlast⟩ := List.append_inj' h rfl
      exact .inl ⟨rfl, (List.cons.inj hlast).1⟩
    · rw [← List.cons_append, ← List.append_assoc] at h
      obtain ⟨rfl, hlast⟩ := List.append_inj' h rfl
      obtain rfl := (List.cons.inj hlast).1
      exact .inr ⟨hafter _ (by simp), rest, rfl, fun b hb => hafter b (by simp [hb])⟩
  · rintro (⟨rfl, rfl⟩ | ⟨hne, after, rfl, hafter⟩)
    · exact ⟨[], rfl, by simp⟩
    · refine ⟨after ++ [binding], by simp, fun b hb => ?_⟩
      rcases List.mem_append.mp hb with hb | hb
      · exact hafter b hb
      · rwa [List.mem_singleton.mp hb]

/-! ### The value of a name -/

theorem map_fst_bind (known : List (String × Option String)) (name : String)
    (value : Option String) : (bind known name value).map Prod.fst =
      if name ∈ known.map Prod.fst then known.map Prod.fst else known.map Prod.fst ++ [name] := by
  induction known with
  | nil => rfl
  | cons entry rest ih =>
    obtain ⟨n, v⟩ := entry
    by_cases hn : name = n
    · simp [bind, hn]
    · by_cases hmem : name ∈ rest.map Prod.fst <;> simp [bind, hn, ih, hmem]

theorem nodup_bind (h : (known.map Prod.fst).Nodup) (name : String) (value : Option String) :
    ((bind known name value).map Prod.fst).Nodup := by
  rw [map_fst_bind]
  split
  · exact h
  next hname => exact h.append (List.nodup_singleton name) (by simpa using hname)

theorem mem_bind_iff (h : (known.map Prod.fst).Nodup) {value : Option String} :
    binding ∈ bind known name value ↔
      binding = (name, value) ∨ name ≠ binding.1 ∧ binding ∈ known := by
  induction known with
  | nil => simp [bind]
  | cons entry rest ih =>
    obtain ⟨n, v⟩ := entry
    rw [List.map_cons, List.nodup_cons] at h
    by_cases hn : name = n
    · subst hn
      have hrest (hmem : binding ∈ rest) : name ≠ binding.1 := fun hname =>
        h.1 (List.mem_map.mpr ⟨binding, hmem, hname.symm⟩)
      simp only [bind, beq_self_eq_true, ↓reduceIte, List.mem_cons]
      constructor
      · rintro (rfl | hmem)
        · exact .inl rfl
        · exact .inr ⟨hrest hmem, .inr hmem⟩
      · rintro (rfl | ⟨hne, rfl | hmem⟩)
        · exact .inl rfl
        · exact absurd rfl hne
        · exact .inr hmem
    · simp only [bind, beq_iff_eq, hn, ↓reduceIte, List.mem_cons, ih h.2]
      constructor
      · rintro (rfl | rfl | hmem)
        · exact .inr ⟨hn, .inl rfl⟩
        · exact .inl rfl
        · exact .inr ⟨hmem.1, .inr hmem.2⟩
      · rintro (rfl | ⟨hne, rfl | hmem⟩)
        · exact .inr (.inl rfl)
        · exact .inl rfl
        · exact .inr (.inr ⟨hne, hmem⟩)

theorem resolve_concat (env : Environment) (found : List (String × Option String))
    (binding : String × Option String) : resolve env (found ++ [binding]) =
      bind (resolve env found) binding.1 (binding.2.map (expand env (resolve env found))) := by
  unfold resolve
  rw [List.foldl_append, List.foldl_cons, List.foldl_nil]

theorem nodup_resolve (env : Environment) (found : List (String × Option String)) :
    ((resolve env found).map Prod.fst).Nodup := by
  induction found using List.reverseRecOn with
  | nil => exact List.nodup_nil
  | append_singleton found binding ih =>
    rw [resolve_concat]
    exact nodup_bind ih _ _

/-- A name stands for what its last binding says, read where that binding stands. -/
theorem mem_resolve_iff {value : Option String} :
    (name, value) ∈ resolve env found ↔ ∃ before written, LastBinding found before name written ∧
      value = written.map (expand env (resolve env before)) := by
  induction found using List.reverseRecOn with
  | nil => simp [resolve, not_lastBinding_nil]
  | append_singleton found binding ih =>
    obtain ⟨n, v⟩ := binding
    simp only [resolve_concat, mem_bind_iff (nodup_resolve env found), ih, lastBinding_concat_iff,
      Prod.mk.injEq]
    constructor
    · rintro (⟨rfl, rfl⟩ | ⟨hne, before, written, hlast, rfl⟩)
      · exact ⟨found, v, .inl ⟨rfl, rfl, rfl⟩, rfl⟩
      · exact ⟨before, written, .inr ⟨hne, hlast⟩, rfl⟩
    · rintro ⟨before, written, ⟨rfl, rfl, rfl⟩ | ⟨hne, hlast⟩, rfl⟩
      · exact .inl ⟨rfl, rfl⟩
      · exact .inr ⟨hne, before, written, hlast, rfl⟩

/-! ### What an environment takes up -/

/-- The environment does not have the name, and the last binding of the name comes to this value, its
references expanded. -/
def Adds (env : Environment) (found : List (String × Option String)) (name value : String) : Prop :=
  env.get? name = none ∧ ∃ before written, LastBinding found before name (some written) ∧
    value = expand env (resolve env before) written

theorem mem_additions_iff {resolved : List (String × Option String)} :
    (name, value) ∈ additions env resolved ↔
      env.get? name = none ∧ (name, some value) ∈ resolved := by
  unfold additions
  rw [List.mem_filterMap]
  constructor
  · rintro ⟨⟨n, v⟩, hmem, h⟩
    dsimp only at h
    split at h
    · cases h
    next hfree =>
      obtain ⟨s, rfl, hs⟩ := Option.map_eq_some_iff.mp h
      cases hs
      exact ⟨hfree, hmem⟩
  · rintro ⟨hfree, hmem⟩
    exact ⟨(name, some value), hmem, by dsimp only; rw [hfree]; rfl⟩

theorem mem_additions_resolve_iff :
    (name, value) ∈ additions env (resolve env found) ↔ Adds env found name value := by
  rw [mem_additions_iff, mem_resolve_iff]
  refine and_congr_right fun _ => exists_congr fun before => ?_
  constructor
  · rintro ⟨written, hlast, hvalue⟩
    obtain ⟨text, rfl, rfl⟩ := Option.map_eq_some_iff.mp hvalue.symm
    exact ⟨text, hlast, rfl⟩
  · rintro ⟨text, hlast, rfl⟩
    exact ⟨some text, hlast, rfl⟩

theorem map_fst_additions (env : Environment) (resolved : List (String × Option String)) :
    ((additions env resolved).map Prod.fst).Sublist (resolved.map Prod.fst) := by
  unfold additions
  induction resolved with
  | nil => exact .slnil
  | cons entry rest ih =>
    obtain ⟨n, v⟩ := entry
    rw [List.filterMap_cons]
    split
    · exact ih.cons n
    next added hadded =>
      dsimp only at hadded
      split at hadded
      · cases hadded
      · obtain ⟨s, -, rfl⟩ := Option.map_eq_some_iff.mp hadded
        exact ih.cons_cons n

theorem nodup_additions (env : Environment) (found : List (String × Option String)) :
    ((additions env (resolve env found)).map Prod.fst).Nodup :=
  (nodup_resolve env found).sublist (map_fst_additions env _)

theorem Adds.get?_setAll (h : Adds env found name value) :
    (env.setAll (additions env (resolve env found))).get? name = some value :=
  Environment.get?_setAll_of_mem (nodup_additions env found) (mem_additions_resolve_iff.mpr h)

theorem extends_setAll_additions (env : Environment) (resolved : List (String × Option String)) :
    (env.setAll (additions env resolved)).Extends env :=
  (Environment.Extends.refl env).setAll fun _ hmem => (mem_additions_iff.mp hmem).1

/-- The same bindings have nothing more for an environment that has taken them up. -/
theorem additions_setAll (env : Environment) (found : List (String × Option String)) :
    let env' := env.setAll (additions env (resolve env found))
    additions env' (resolve env' found) = [] := by
  intro env'
  refine List.eq_nil_iff_forall_not_mem.mpr fun ⟨name, value⟩ hmem => ?_
  obtain ⟨hfree, before, written, hlast, -⟩ := mem_additions_resolve_iff.mp hmem
  cases hname : env.get? name with
  | some held =>
    rw [(extends_setAll_additions env _).get? name held hname] at hfree
    cases hfree
  | none =>
    -- The references may be expanded otherwise by now; that the name has a value is the same.
    have hadds : Adds env found name _ := ⟨hname, before, written, hlast, rfl⟩
    rw [hadds.get?_setAll] at hfree
    cases hfree

end MergeBench.Dotenv
