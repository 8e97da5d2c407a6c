import Librarian.Lib.Conc.Environment

/-!
# One thread among others

A run in which one thread is watched. The thread has a phase, which its own actions change; what the
oracle answers to it is assumed, and so is what the others do to the shared state while it is in a
phase. Everything else about the others is arbitrary: how many there are, what they run and when.

To the watched thread the others are an environment (`Setting.environment`): before each of its
actions the state may change as the assumption allows. `Watched.runs` takes a run to a run of that
one program, so that `upholds` speaks about whole runs.
-/

namespace Conc

variable {M : Machine} {Φ : Type}

/-- What is assumed of a run in which one thread is watched. -/
structure Setting (M : Machine) (Φ : Type) where
  /-- The phase after an action, by its result and the state that it met. -/
  next : Φ → (a : M.Action) → M.Result a → M.State → Φ
  /-- What the thread's actions meet. -/
  meets : (a : M.Action) → M.Oracle → M.State → Prop
  /-- What the others do in a phase. -/
  rely : Φ → M.State → M.State → Prop
  rely_refl : ∀ φ s, rely φ s s
  rely_trans : ∀ {φ s₁ s₂ s₃}, rely φ s₁ s₂ → rely φ s₂ s₃ → rely φ s₁ s₃

namespace Setting

variable (S : Setting M Φ)

/-- The phase after an event of the thread. -/
def after (φ : Φ) : Event M → Φ
  | .action _ a result before => S.next φ a result before
  | .acquire _ _ | .release _ _ => φ

/-- An event of the thread meets what is assumed. -/
def Meets (o : M.Oracle) : Event M → Prop
  | .action _ a _ before => S.meets a o before
  | .acquire _ _ | .release _ _ => True

/-- The others, as an environment of the thread. -/
def environment : Environment M (M.State × Φ) := fun e a r e' =>
  ∃ s o, S.rely e.2 e.1 s ∧ S.meets a o s ∧ M.perform a o s = (r, e'.1) ∧ e'.2 = S.next e.2 a r s

end Setting

section

variable [DecidableEq M.Mutex]

/-- A run goes on from a configuration, with thread `t` watched. -/
inductive Watched (S : Setting M Φ) (allowed : Prog M Unit → Prop) (t : ℕ) (c₀ : Config M)
    (φ₀ : Φ) : Config M → Φ → Prop
  | start : Watched S allowed t c₀ φ₀ c₀ φ₀
  | spawn {c : Config M} {φ : Φ} {p : Prog M Unit} (h : Watched S allowed t c₀ φ₀ c φ)
      (program : allowed p) : Watched S allowed t c₀ φ₀ (c.spawn p) φ
  | other {c c' : Config M} {φ : Φ} {t' : ℕ} {o : M.Oracle} {event : Event M}
      (h : Watched S allowed t c₀ φ₀ c φ) (hne : t' ≠ t) (next : c.next t' o = some (event, c'))
      (rely : S.rely φ c.shared c'.shared) : Watched S allowed t c₀ φ₀ c' φ
  | own {c c' : Config M} {φ : Φ} {o : M.Oracle} {event : Event M}
      (h : Watched S allowed t c₀ φ₀ c φ) (next : c.next t o = some (event, c'))
      (meets : S.Meets o event) : Watched S allowed t c₀ φ₀ c' (S.after φ event)

/-- A step of another thread leaves the program of a thread alone. -/
theorem Config.next_threads_of_ne {c c' : Config M} {t t' : ℕ} {o : M.Oracle} {event : Event M}
    (hne : t' ≠ t) (h : c.next t' o = some (event, c')) :
    c'.threads t = c.threads t ∧ c'.started = c.started := by
  unfold Config.next at h
  split at h
  · cases h
  · cases h
    exact ⟨Function.update_of_ne hne.symm _ _, rfl⟩
  · split_ifs at h
    cases h
    exact ⟨Function.update_of_ne hne.symm _ _, rfl⟩
  · split_ifs at h
    cases h
    exact ⟨Function.update_of_ne hne.symm _ _, rfl⟩
  · cases h

/-- A step of the watched thread is a step of its program against the others. -/
theorem Setting.step {S : Setting M Φ} {c c' : Config M} {φ : Φ} {e : M.State} {t : ℕ}
    {o : M.Oracle} {event : Event M} (hrely : S.rely φ e c.shared)
    (h : c.next t o = some (event, c')) (hmeets : S.Meets o event) :
    c'.started = c.started ∧ ∃ e', S.rely (S.after φ event) e' c'.shared ∧
      Step S.environment (c.threads t) (e, φ) (c'.threads t) (e', S.after φ event) := by
  unfold Config.next at h
  split at h
  · cases h
  · rename_i a k hthread
    cases h
    refine ⟨rfl, _, S.rely_refl _ _, ?_⟩
    rw [hthread]
    simp only [Function.update_self]
    exact .call ⟨c.shared, o, hrely, hmeets, rfl, rfl⟩
  · rename_i m k hthread
    split_ifs at h
    cases h
    refine ⟨rfl, e, hrely, ?_⟩
    rw [hthread]
    simp only [Function.update_self]
    exact .acquire
  · rename_i m k hthread
    split_ifs at h
    cases h
    refine ⟨rfl, e, hrely, ?_⟩
    rw [hthread]
    simp only [Function.update_self]
    exact .release
  · cases h

/-- A run with a watched thread is, for its program, a run against the others. -/
theorem Watched.runs {S : Setting M Φ} {allowed : Prog M Unit → Prop} {t : ℕ} {c₀ c : Config M}
    {φ₀ φ : Φ} (hstarted : t < c₀.started) (h : Watched S allowed t c₀ φ₀ c φ) :
    t < c.started ∧ ∃ e, S.rely φ e c.shared ∧
      Runs S.environment (c₀.threads t) (c₀.shared, φ₀) (c.threads t) (e, φ) := by
  induction h with
  | start => exact ⟨hstarted, _, S.rely_refl _ _, .start⟩
  | @spawn c φ p h program ih =>
    obtain ⟨hlt, e, hrely, hruns⟩ := ih
    have hthreads : (c.spawn p).threads t = c.threads t := Function.update_of_ne hlt.ne _ _
    rw [hthreads]
    exact ⟨Nat.lt_succ_of_lt hlt, e, hrely, hruns⟩
  | other h hne next rely ih =>
    obtain ⟨hlt, e, hrely, hruns⟩ := ih
    obtain ⟨hthreads, hcount⟩ := Config.next_threads_of_ne hne next
    rw [hthreads, hcount]
    exact ⟨hlt, e, S.rely_trans hrely rely, hruns⟩
  | own h next meets ih =>
    obtain ⟨hlt, e, hrely, hruns⟩ := ih
    obtain ⟨hcount, e', hrely', hstep⟩ := Setting.step hrely next meets
    rw [hcount]
    exact ⟨hlt, e', hrely', hruns.step hstep⟩

/-- Executes the steps of some threads, with one of them watched and the same oracle for all. -/
def follow (S : Setting M Φ) (check : Event M → Bool) (t : ℕ) (o : M.Oracle) :
    List ℕ → Config M → Φ → Option (Config M × Φ)
  | [], c, φ => some (c, φ)
  | t' :: ts, c, φ =>
    match c.next t' o with
    | none => none
    | some (event, c') =>
      if t' ≠ t then follow S check t o ts c' φ
      else if check event then follow S check t o ts c' (S.after φ event)
      else none

/-- When nothing is assumed of the others, or they take no steps, what has been executed is a
run. -/
theorem Watched.of_follow {S : Setting M Φ} {allowed : Prog M Unit → Prop}
    {check : Event M → Bool} {t : ℕ} {o : M.Oracle} {ts : List ℕ} {c₀ c c' : Config M}
    {φ₀ φ φ' : Φ} (hrely : ∀ t' ∈ ts, t' ≠ t → ∀ φ s s', S.rely φ s s')
    (hcheck : ∀ event, check event → S.Meets o event) (h : Watched S allowed t c₀ φ₀ c φ)
    (hfollow : follow S check t o ts c φ = some (c', φ')) : Watched S allowed t c₀ φ₀ c' φ' := by
  induction ts generalizing c φ with
  | nil =>
    cases hfollow
    exact h
  | cons t' ts ih =>
    have hrest : ∀ t'' ∈ ts, t'' ≠ t → ∀ φ s s', S.rely φ s s' :=
      fun t'' hmem => hrely t'' (List.mem_cons_of_mem _ hmem)
    unfold follow at hfollow
    split at hfollow
    · cases hfollow
    · rename_i event c₁ hnext
      split_ifs at hfollow with hne hmeets
      · exact ih hrest (h.other hne hnext (hrely t' List.mem_cons_self hne _ _ _)) hfollow
      · obtain rfl := not_not.mp hne
        exact ih hrest (h.own hnext (hcheck event hmeets)) hfollow

end

/-- The rule for one action of the watched thread. -/
theorem Setting.upholds_act {S : Setting M Φ} {α : Type} {a : M.Action}
    {k : M.Result a → Prog M α} {I : M.State × Φ → Prop} {Q : α → M.State × Φ → Prop} {s : M.State}
    {φ : Φ} (hI : I (s, φ))
    (hk : ∀ s' o, S.rely φ s s' → S.meets a o s' →
      upholds S.environment I (k (M.perform a o s').1) Q
        ((M.perform a o s').2, S.next φ a (M.perform a o s').1 s')) :
    upholds S.environment I ((Prog.act a).bind k) Q (s, φ) := by
  refine ⟨hI, fun r e' henv => ?_⟩
  obtain ⟨s', o, hrely, hmeets, hperform, hphase⟩ := henv
  obtain ⟨e', φ'⟩ := e'
  dsimp only at hperform hphase
  have h := hk s' o hrely hmeets
  rw [hperform] at h
  rw [hphase]
  exact h

end Conc
