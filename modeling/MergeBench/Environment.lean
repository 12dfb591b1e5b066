namespace MergeBench

structure Environment where
  bindings : List (String × String)
  account : String
  homes : List (String × String)
  deriving DecidableEq, Repr

namespace Environment

def get? (env : Environment) (name : String) : Option String :=
  env.bindings.lookup name

def nonempty? (env : Environment) (name : String) : Option String :=
  (env.get? name).filter (· != "")

def setIn : List (String × String) → String → String → List (String × String)
  | [], name, value => [(name, value)]
  | (n, v) :: rest, name, value =>
    if name == n then (n, value) :: rest else (n, v) :: setIn rest name value

def set (env : Environment) (name value : String) : Environment :=
  { env with bindings := setIn env.bindings name value }

/-- Later bindings win. -/
def setAll (env : Environment) (added : List (String × String)) : Environment :=
  added.foldl (fun e binding => e.set binding.1 binding.2) env

theorem lookup_setIn (bindings : List (String × String)) (name value other : String) :
    (setIn bindings name value).lookup other =
      if other = name then some value else bindings.lookup other := by
  induction bindings with
  | nil => by_cases h : other = name <;> simp [setIn, List.lookup_cons, h, beq_false_of_ne]
  | cons entry rest ih =>
    obtain ⟨n, v⟩ := entry
    by_cases hn : name = n
    · subst hn
      by_cases h : other = name <;> simp [setIn, List.lookup_cons, h, beq_false_of_ne]
    · by_cases h : other = n
      · subst h
        have h' : ¬other = name := fun e => hn e.symm
        simp [setIn, hn, h']
      · simp [setIn, List.lookup_cons, hn, ih, beq_false_of_ne h]

@[simp]
theorem get?_set (env : Environment) (name value other : String) :
    (env.set name value).get? other = if other = name then some value else env.get? other :=
  lookup_setIn env.bindings name value other

end Environment

end MergeBench
