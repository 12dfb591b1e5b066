import MergeBench.Path

namespace MergeBench

/-- Variables were added, and none that was set before is another now. -/
structure Environment.Extends (env' env : Environment) : Prop where
  account : env'.account = env.account
  homes : env'.homes = env.homes
  get? : ∀ name value, env.get? name = some value → env'.get? name = some value

namespace Environment

namespace Extends

variable {env₁ env₂ env₃ : Environment}

theorem refl (env : Environment) : env.Extends env :=
  ⟨rfl, rfl, fun _ _ h => h⟩

theorem trans (h : env₃.Extends env₂) (h' : env₂.Extends env₁) : env₃.Extends env₁ :=
  ⟨h.account.trans h'.account, h.homes.trans h'.homes, fun name value hname =>
    h.get? name value (h'.get? name value hname)⟩

theorem set (h : env₂.Extends env₁) {name : String} (hname : env₁.get? name = none) (value : String) :
    (env₂.set name value).Extends env₁ := by
  refine ⟨h.account, h.homes, fun other held hother => ?_⟩
  rw [get?_set, if_neg, h.get? other held hother]
  rintro rfl
  rw [hname] at hother
  cases hother

theorem setAll {added : List (String × String)} (h : env₂.Extends env₁)
    (hfree : ∀ b ∈ added, env₁.get? b.1 = none) : (env₂.setAll added).Extends env₁ := by
  induction added generalizing env₂ with
  | nil => exact h
  | cons binding rest ih =>
    rw [List.forall_mem_cons] at hfree
    exact ih (h.set hfree.1 binding.2) hfree.2

/-- Of the variables only that of the home directory decides where `~` leads. -/
theorem expandHome_eq (h : env₂.Extends env₁) (hhome : env₂.get? "HOME" = env₁.get? "HOME")
    (p : Path) : p.expandHome env₂ = p.expandHome env₁ := by
  unfold Path.expandHome Environment.home?
  rw [hhome, h.account, h.homes]

end Extends

variable {env : Environment} {added : List (String × String)} {name value : String}

theorem get?_setAll_of_not_mem (h : name ∉ added.map Prod.fst) :
    (env.setAll added).get? name = env.get? name := by
  induction added generalizing env with
  | nil => rfl
  | cons binding rest ih =>
    rw [List.map_cons, List.mem_cons, not_or] at h
    have hset : (env.set binding.1 binding.2).get? name = env.get? name := by rw [get?_set, if_neg h.1]
    exact (ih h.2).trans hset

theorem get?_setAll_of_mem (hnames : (added.map Prod.fst).Nodup) (h : (name, value) ∈ added) :
    (env.setAll added).get? name = some value := by
  induction added generalizing env with
  | nil => cases h
  | cons binding rest ih =>
    rw [List.map_cons, List.nodup_cons] at hnames
    rcases List.mem_cons.mp h with rfl | h
    · have hset : (env.set name value).get? name = some value := by rw [get?_set, if_pos rfl]
      exact (get?_setAll_of_not_mem hnames.1).trans hset
    · exact ih hnames.2 h

theorem get?_setAll_cases (h : (env.setAll added).get? name = some value) :
    env.get? name = some value ∨ (name, value) ∈ added := by
  induction added generalizing env with
  | nil => exact .inl h
  | cons binding rest ih =>
    rcases ih h with hset | hmem
    · rw [get?_set] at hset
      split at hset
      next hname =>
        cases hset
        exact .inr (by rw [hname]; exact List.mem_cons_self)
      · exact .inl hset
    · exact .inr (List.mem_cons_of_mem binding hmem)

end Environment

end MergeBench
