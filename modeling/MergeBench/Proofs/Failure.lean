import MergeBench.Fault

/-!
Results that are values or errors. A result reports its failure if the fault is a configuration error;
any other fault strays through the program.
-/

namespace MergeBench

variable {ε ε' α β : Type}

@[simp]
theorem mapError_ok (wrap : ε → ε') (a : α) : (Except.ok a).mapError wrap = .ok a := rfl

@[simp]
theorem mapError_error (wrap : ε → ε') (e : ε) :
    (Except.error e : Except ε α).mapError wrap = .error (wrap e) := rfl

theorem mapError_eq_ok_iff {r : Except ε α} {wrap : ε → ε'} {a : α} :
    r.mapError wrap = .ok a ↔ r = .ok a := by
  cases r <;> simp

/-- The result is this value; unlike an equation of results it can be decided. -/
def yields [DecidableEq α] (r : Except ε α) (a : α) : Bool :=
  match r with
  | .ok b => decide (b = a)
  | .error _ => false

theorem yields_iff [DecidableEq α] {r : Except ε α} {a : α} : yields r a = true ↔ r = .ok a := by
  cases r <;> simp [yields]

def errorOf : Except ε α → Option ε
  | .error e => some e
  | .ok _ => none

theorem errorOf_eq_some_iff {r : Except ε α} {e : ε} : errorOf r = some e ↔ r = .error e := by
  cases r <;> simp [errorOf]

theorem errorOf_eq_none_iff {r : Except ε α} : errorOf r = none ↔ ∃ a, r = .ok a := by
  cases r <;> simp [errorOf]

theorem bind_eq_ok_iff {r : Except ε α} {next : α → Except ε β} {b : β} :
    r >>= next = .ok b ↔ ∃ a, r = .ok a ∧ next a = .ok b := by
  cases r with
  | error e => simp [bind, Except.bind]
  | ok a => simp [bind, Except.bind]

/-! ### Failing -/

def Fails (r : Except ε α) : Prop :=
  ∃ e, r = .error e

@[simp]
theorem fails_error (e : ε) : Fails (.error e : Except ε α) :=
  ⟨e, rfl⟩

@[simp]
theorem not_fails_ok (a : α) : ¬Fails (.ok a : Except ε α) := by
  rintro ⟨e, h⟩
  cases h

@[simp]
theorem not_fails_pure (a : α) : ¬Fails (pure a : Except ε α) :=
  not_fails_ok a

/-- Whether the rest fails does not depend here on the value that it goes on with. -/
theorem fails_bind_iff {r : Except ε α} {next : α → Except ε β} {p : Prop}
    (h : ∀ a, Fails (next a) ↔ p) : Fails (r >>= next) ↔ Fails r ∨ p := by
  cases r with
  | error e => simp [bind, Except.bind]
  | ok a => simp [bind, Except.bind, h]

@[simp]
theorem fails_mapError_iff {r : Except ε α} {wrap : ε → ε'} : Fails (r.mapError wrap) ↔ Fails r := by
  cases r <;> simp

/-! ### Straying -/

/-- A failure that is no configuration error. -/
def Strays (r : Except Fault α) : Prop :=
  ∃ f, r = .error f ∧ ∀ e, f ≠ .config e

/-- There is a value, or a configuration error says why there is none. -/
def Reports (r : Except Fault α) : Prop :=
  (∃ a, r = .ok a) ∨ ∃ e, r = .error (.config e)

@[simp]
theorem not_strays_ok (a : α) : ¬Strays (.ok a) := by
  rintro ⟨f, h, -⟩
  cases h

@[simp]
theorem not_strays_pure (a : α) : ¬Strays (pure a) :=
  not_strays_ok a

@[simp]
theorem not_strays_config (e : ConfigError) : ¬Strays (.error (.config e) : Except Fault α) := by
  rintro ⟨f, h, hf⟩
  cases h
  exact hf e rfl

theorem reports_iff {r : Except Fault α} : Reports r ↔ ¬Strays r := by
  cases r with
  | ok a => simp [Reports]
  | error f => cases f <;> simp [Reports, Strays]

theorem strays_iff_errorOf {r : Except Fault α} :
    Strays r ↔ ∃ f, errorOf r = some f ∧ ∀ e, f ≠ .config e := by
  simp only [Strays, errorOf_eq_some_iff]

theorem strays_mapError_iff {r : Except ε α} {wrap : ε → Fault}
    (hwrap : ∀ e e', wrap e ≠ .config e') : Strays (r.mapError wrap) ↔ Fails r := by
  cases r with
  | error e => exact ⟨fun _ => fails_error e, fun _ => ⟨wrap e, rfl, hwrap e⟩⟩
  | ok a => simp

theorem strays_bind_iff {r : Except Fault α} {next : α → Except Fault β} :
    Strays (r >>= next) ↔ Strays r ∨ ∃ a, r = .ok a ∧ Strays (next a) := by
  cases r with
  | error f => simp [Strays, bind, Except.bind]
  | ok a => simp [bind, Except.bind]

theorem strays_bind_of_forall_not {r : Except Fault α} {next : α → Except Fault β}
    (h : ∀ a, ¬Strays (next a)) : Strays (r >>= next) ↔ Strays r := by
  simp [strays_bind_iff, h]

end MergeBench
