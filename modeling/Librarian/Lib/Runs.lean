import Mathlib.Data.List.Basic

/-!
# Runs of a deterministic machine

A machine is a function `step` from a state and an input to the next state; a run folds it over a
list of inputs. `Along step p s inputs` says that each input of the run from `s` meets `p` in the
state it arrives in, and `Along.invariant` is the induction over such runs.
-/

namespace Runs

variable {σ α : Type*} {step : σ → α → σ} {p q : σ → α → Prop} {s : σ} {inputs : List α}

/-- Each input of the run meets `p` in the state it arrives in. -/
def Along (step : σ → α → σ) (p : σ → α → Prop) : σ → List α → Prop
  | _, [] => True
  | s, a :: inputs => p s a ∧ Along step p (step s a) inputs

@[simp] theorem along_nil : Along step p s [] := trivial

@[simp] theorem along_cons {a : α} :
    Along step p s (a :: inputs) ↔ p s a ∧ Along step p (step s a) inputs := Iff.rfl

/-- A run in two parts. -/
@[simp] theorem along_append {more : List α} :
    Along step p s (inputs ++ more) ↔
      Along step p s inputs ∧ Along step p (inputs.foldl step s) more := by
  induction inputs generalizing s with
  | nil => simp
  | cons a inputs ih => simp [ih, and_assoc]

/-- A condition along a run is one about every split of it at an input. -/
theorem along_iff : Along step p s inputs ↔
    ∀ before a after, inputs = before ++ a :: after → p (before.foldl step s) a := by
  constructor
  · intro h before a after hsplit
    rw [hsplit, along_append, along_cons] at h
    exact h.2.1
  · intro h
    induction inputs generalizing s with
    | nil => trivial
    | cons a inputs ih =>
      have hfirst : p s a := h [] a inputs rfl
      have hrest : Along step p (step s a) inputs :=
        ih fun before b after hsplit => h (a :: before) b after (by rw [hsplit]; rfl)
      exact ⟨hfirst, hrest⟩

theorem Along.imp (h : Along step p s inputs) (hpq : ∀ s a, p s a → q s a) :
    Along step q s inputs := by
  induction inputs generalizing s with
  | nil => trivial
  | cons a inputs ih => exact ⟨hpq s a h.1, ih h.2⟩

/-- What each step along the run keeps holds at its end. -/
theorem Along.invariant {I : σ → Prop} (h : Along step p s inputs) (hs : I s)
    (hstep : ∀ s a, I s → p s a → I (step s a)) : I (inputs.foldl step s) := by
  induction inputs generalizing s with
  | nil => exact hs
  | cons a inputs ih => exact ih h.2 (hstep s a hs h.1)

/-- What every step keeps holds at the end of every run. -/
theorem invariant {I : σ → Prop} (inputs : List α) (hs : I s)
    (hstep : ∀ s a, I s → I (step s a)) : I (inputs.foldl step s) := by
  induction inputs generalizing s with
  | nil => exact hs
  | cons a inputs ih => exact ih (hstep s a hs)

end Runs
