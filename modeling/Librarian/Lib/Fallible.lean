import Mathlib.Tactic.Common

/-!
# Fallible computations

Inversion lemmas for `Except`. A source function that returns early on an error is a `do` block
here, with one guard for each early return; the simp set below turns the statement that the block
succeeds into the conjunction of its guards and of the successes of its calls.
-/

namespace Except

variable {ε α β : Type}

/-- A sequence succeeds when both parts do. -/
@[simp]
theorem bind_eq_ok {x : Except ε α} {f : α → Except ε β} {b : β} :
    (x >>= f) = .ok b ↔ ∃ a, x = .ok a ∧ f a = .ok b := by
  cases x with
  | error e => simp [bind, Except.bind]
  | ok a => simp [bind, Except.bind]

/-- A call that returns nothing succeeds with the unit value. -/
@[simp]
theorem exists_unit_eq {p : Unit → Prop} : (∃ u, p u) ↔ p () :=
  ⟨fun ⟨_, h⟩ => h, fun h => ⟨(), h⟩⟩

/-- A sequence fails when a part does. -/
theorem bind_eq_error {x : Except ε α} {f : α → Except ε β} {e : ε} :
    (x >>= f) = .error e ↔ x = .error e ∨ ∃ a, x = .ok a ∧ f a = .error e := by
  cases x with
  | error e => simp [bind, Except.bind]
  | ok a => simp [bind, Except.bind]

@[simp]
theorem ok_bind (a : α) (f : α → Except ε β) : (Except.ok a >>= f) = f a := rfl

@[simp]
theorem error_bind (e : ε) (f : α → Except ε β) : (Except.error e >>= f) = .error e := rfl

@[simp]
theorem throw_eq (e : ε) : (throw e : Except ε α) = .error e := rfl

@[simp]
theorem pure_eq (a : α) : (pure a : Except ε α) = .ok a := rfl

/-- A guard lets a computation succeed when its condition does not hold. -/
@[simp]
theorem ite_error_eq_ok {c : Prop} [Decidable c] {e : ε} {x : Except ε α} {a : α} :
    (if c then .error e else x) = .ok a ↔ ¬c ∧ x = .ok a := by
  by_cases h : c <;> simp [h]

/-- A guard fails with its error, or lets the computation fail. -/
theorem ite_error_eq_error {c : Prop} [Decidable c] {e e' : ε} {x : Except ε α} :
    (if c then .error e else x) = .error e' ↔ c ∧ e = e' ∨ ¬c ∧ x = .error e' := by
  by_cases h : c <;> simp [h]

@[simp]
theorem map_eq_ok {f : α → β} {x : Except ε α} {b : β} :
    f <$> x = .ok b ↔ ∃ a, x = .ok a ∧ f a = b := by
  cases x with
  | error e => simp [Functor.map, Except.map]
  | ok a => simp [Functor.map, Except.map]

@[simp]
theorem map_eq_error {f : α → β} {x : Except ε α} {e : ε} :
    f <$> x = .error e ↔ x = .error e := by
  cases x with
  | error e => simp [Functor.map, Except.map]
  | ok a => simp [Functor.map, Except.map]

@[simp]
theorem toOption_eq_some {x : Except ε α} {a : α} : x.toOption = some a ↔ x = .ok a := by
  cases x <;> simp [Except.toOption]

/-- A failing computation's error, with the error type changed: `map_err`. -/
def mapErr {ε' : Type} (f : ε → ε') : Except ε α → Except ε' α
  | .ok a => .ok a
  | .error e => .error (f e)

@[simp]
theorem mapErr_eq_ok {ε' : Type} {f : ε → ε'} {x : Except ε α} {a : α} :
    mapErr f x = .ok a ↔ x = .ok a := by
  cases x with
  | error e => simp [mapErr]
  | ok b => simp [mapErr]

@[simp]
theorem mapErr_eq_error {ε' : Type} {f : ε → ε'} {x : Except ε α} {e' : ε'} :
    mapErr f x = .error e' ↔ ∃ e, x = .error e ∧ f e = e' := by
  cases x with
  | error e => simp [mapErr]
  | ok b => simp [mapErr]

@[simp]
theorem mapErr_ok {ε' : Type} (f : ε → ε') (a : α) : mapErr f (.ok a : Except ε α) = .ok a := rfl

end Except

namespace Option

variable {ε α : Type}

/-- `ok_or`: an absent value is an error. -/
def okOr (x : Option α) (e : ε) : Except ε α :=
  match x with
  | some a => .ok a
  | none => .error e

@[simp]
theorem okOr_eq_ok {x : Option α} {e : ε} {a : α} : x.okOr e = .ok a ↔ x = some a := by
  cases x with
  | none => simp [okOr]
  | some b => simp [okOr]

@[simp]
theorem okOr_eq_error {x : Option α} {e e' : ε} : x.okOr e = .error e' ↔ x = none ∧ e = e' := by
  cases x with
  | none => simp [okOr]
  | some b => simp [okOr]

@[simp]
theorem okOr_some (a : α) (e : ε) : (some a).okOr e = .ok a := rfl

end Option
