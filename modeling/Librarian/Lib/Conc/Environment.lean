import Librarian.Lib.Conc.Program

/-!
# Programs against an environment

What a program does to something outside of the machine's state, when it runs by itself. An
environment says how each action may change it, depending on the action's result; the results are
otherwise arbitrary, which covers everything that other threads can do to the shared state meanwhile.

`upholds` checks a program against a condition on every environment that it passes and another one on
those in which it ends. A program that performs no action of some kind is quiet, and leaves alone
what only such actions change.
-/

namespace Conc

variable {M : Machine} {E α β : Type}

/-- Which environments may follow an action, by its result. -/
abbrev Environment (M : Machine) (E : Type) : Type 1 :=
  E → (a : M.Action) → M.Result a → E → Prop

/-- One step of a program in an environment. -/
inductive Step (env : Environment M E) : Prog M α → E → Prog M α → E → Prop
  | call {e e' : E} {a : M.Action} {k : M.Result a → Prog M α} {r : M.Result a}
      (h : env e a r e') : Step env (.call a k) e (k r) e'
  | acquire {e : E} {m : M.Mutex} {k : Prog M α} : Step env (.acquire m k) e k e
  | release {e : E} {m : M.Mutex} {k : Prog M α} : Step env (.release m k) e k e

/-- A run of a program takes it, and its environment, so far. -/
inductive Runs (env : Environment M E) (p₀ : Prog M α) (e₀ : E) : Prog M α → E → Prop
  | start : Runs env p₀ e₀ p₀ e₀
  | step {p p' : Prog M α} {e e' : E} (h : Runs env p₀ e₀ p e) (hstep : Step env p e p' e') :
      Runs env p₀ e₀ p' e'

/-- From an environment on, a program passes environments that satisfy `I` and ends in `Q`. -/
def upholds (env : Environment M E) (I : E → Prop) :
    Prog M α → (α → E → Prop) → E → Prop
  | .ret a, Q, e => Q a e
  | .call a k, Q, e => I e ∧ ∀ r e', env e a r e' → upholds env I (k r) Q e'
  | .acquire _ k, Q, e => I e ∧ upholds env I k Q e
  | .release _ k, Q, e => I e ∧ upholds env I k Q e
  | .halt, _, e => I e

variable {env : Environment M E} {I : E → Prop} {Q Q' : α → E → Prop} {e e' : E}

@[simp]
theorem upholds_ret {a : α} : upholds env I (.ret a) Q e ↔ Q a e := Iff.rfl

theorem upholds_call {a : M.Action} {k : M.Result a → Prog M α} :
    upholds env I (.call a k) Q e ↔ I e ∧ ∀ r e', env e a r e' → upholds env I (k r) Q e' :=
  Iff.rfl

/-- A step leads to a program that upholds the same. -/
theorem upholds.step {p p' : Prog M α} (h : upholds env I p Q e) (hstep : Step env p e p' e') :
    upholds env I p' Q e' := by
  cases hstep with
  | call henv => exact h.2 _ _ henv
  | acquire => exact h.2
  | release => exact h.2

/-- A run leads to programs that uphold the same. -/
theorem upholds.runs {p p' : Prog M α} (h : upholds env I p Q e) (hruns : Runs env p e p' e') :
    upholds env I p' Q e' := by
  induction hruns with
  | start => exact h
  | step _ hstep ih => exact ih.step hstep

/-- Wherever a program is on its way, and wherever it ends with what it owes there. -/
theorem upholds.here {p : Prog M α} (h : upholds env I p Q e) :
    I e ∨ ∃ a, p = .ret a ∧ Q a e := by
  cases p with
  | ret a => exact .inr ⟨a, rfl, h⟩
  | call a k => exact .inl h.1
  | acquire m k => exact .inl h.1
  | release m k => exact .inl h.1
  | halt => exact .inl h

theorem upholds.mono {p : Prog M α} (h : upholds env I p Q e) (hQ : ∀ a e, Q a e → Q' a e) :
    upholds env I p Q' e := by
  induction p generalizing e with
  | ret a => exact hQ a e h
  | call a k ih => exact ⟨h.1, fun r e' henv => ih r (h.2 r e' henv)⟩
  | acquire m k ih => exact ⟨h.1, ih h.2⟩
  | release m k ih => exact ⟨h.1, ih h.2⟩
  | halt => exact h

theorem upholds_bind {p : Prog M α} {f : α → Prog M β} {Q : β → E → Prop} :
    upholds env I (p.bind f) Q e ↔
      upholds env I p (fun a e => upholds env I (f a) Q e) e := by
  induction p generalizing e with
  | ret a => exact Iff.rfl
  | call a k ih =>
    unfold Prog.bind upholds
    exact and_congr_right fun _ => forall_congr' fun r => forall_congr' fun e' =>
      imp_congr_right fun _ => ih r
  | acquire m k ih =>
    unfold Prog.bind upholds
    exact and_congr_right fun _ => ih
  | release m k ih =>
    unfold Prog.bind upholds
    exact and_congr_right fun _ => ih
  | halt => exact Iff.rfl

/-- A part with a known end, and then the rest. -/
theorem upholds.seq {p : Prog M α} {f : α → Prog M β} {Q' : β → E → Prop}
    (hp : upholds env I p Q e) (hf : ∀ a e, Q a e → upholds env I (f a) Q' e) :
    upholds env I (p.bind f) Q' e :=
  upholds_bind.mpr (hp.mono hf)

/-- A part under a mutex. The environment has to be acceptable again at the release. -/
theorem upholds.withLock {m : M.Mutex} {p : Prog M α} (hI : I e)
    (hp : upholds env I p (fun a e => I e ∧ Q a e) e) :
    upholds env I (.withLock m p) Q e :=
  ⟨hI, upholds_bind.mpr (hp.mono fun _ _ h => h)⟩

/-! ## Quiet programs -/

/-- A program performs no action of some kind. -/
def Quiet (loud : M.Action → Prop) : Prog M α → Prop
  | .ret _ => True
  | .call a k => ¬loud a ∧ ∀ r, Quiet loud (k r)
  | .acquire _ k => Quiet loud k
  | .release _ k => Quiet loud k
  | .halt => True

namespace Quiet

variable {loud : M.Action → Prop}

@[simp]
theorem ret {a : α} : Quiet loud (.ret a : Prog M α) := trivial

@[simp]
theorem halt : Quiet loud (.halt : Prog M α) := trivial

theorem act {a : M.Action} (h : ¬loud a) : Quiet loud (.act a) := ⟨h, fun _ => trivial⟩

theorem bind {p : Prog M α} {f : α → Prog M β} (hp : Quiet loud p) (hf : ∀ a, Quiet loud (f a)) :
    Quiet loud (p.bind f) := by
  induction p with
  | ret a => exact hf a
  | call a k ih => exact ⟨hp.1, fun r => ih r (hp.2 r)⟩
  | acquire m k ih => exact ih hp
  | release m k ih => exact ih hp
  | halt => trivial

theorem withLock {m : M.Mutex} {p : Prog M α} (hp : Quiet loud p) : Quiet loud (.withLock m p) :=
  bind hp fun _ => trivial

theorem ite {c : Prop} [Decidable c] {p q : Prog M α} (hp : Quiet loud p) (hq : Quiet loud q) :
    Quiet loud (if c then p else q) := by
  split_ifs
  · exact hp
  · exact hq

/-- A quiet program changes nothing in an environment that only loud actions change. -/
theorem upholds {p : Prog M α} (h : Quiet loud p) (hI : I e)
    (henv : ∀ e a r e', ¬loud a → env e a r e' → e' = e) (hQ : ∀ a, Q a e) :
    Conc.upholds env I p Q e := by
  induction p with
  | ret a => exact hQ a
  | call a k ih =>
    refine ⟨hI, fun r e' hstep => ?_⟩
    obtain rfl := henv e a r e' h.1 hstep
    exact ih r (h.2 r)
  | acquire m k ih => exact ⟨hI, ih h⟩
  | release m k ih => exact ⟨hI, ih h⟩
  | halt => exact hI

end Quiet

end Conc
