import Mathlib.Data.Finset.Card
import Mathlib.Data.Finset.Insert
import Mathlib.Data.Fintype.Basic
import Mathlib.Logic.Function.Basic

/-!
# Threads that share a state and take mutexes

A machine has a shared state and a set of atomic actions on it. An action may consult an oracle,
which stands for everything that the state does not determine: input and output, random bytes, the
passing of time, the answers of other components. A program is a tree of actions, of acquisitions
and of releases of mutexes. A configuration has one program for each thread, and a run interleaves
their steps. A run keeps its history, so that what happened before a moment, and in which order, can
be spoken of without adding anything to the state.
-/

namespace Conc

/-- The atomic actions of a component on its shared state, with the types of their results. -/
structure Machine where
  State : Type
  Oracle : Type
  Mutex : Type
  Action : Type 1
  Result : Action → Type
  perform : (a : Action) → Oracle → State → Result a × State

/-- A program with a result. -/
inductive Prog (M : Machine) (α : Type) : Type 1
  /-- The program has ended. -/
  | ret (a : α)
  | call (a : M.Action) (k : M.Result a → Prog M α)
  | acquire (m : M.Mutex) (k : Prog M α)
  | release (m : M.Mutex) (k : Prog M α)
  /-- The program goes on for longer than the run under consideration. -/
  | halt

namespace Prog

variable {M : Machine} {α β γ : Type}

/-- Sequential composition. -/
def bind : Prog M α → (α → Prog M β) → Prog M β
  | ret a, f => f a
  | call a k, f => call a fun r => (k r).bind f
  | acquire m k, f => acquire m (k.bind f)
  | release m k, f => release m (k.bind f)
  | halt, _ => halt

instance instMonad : Monad (Prog M) where
  pure := ret
  bind := bind

/-- One action. -/
def act (a : M.Action) : Prog M (M.Result a) := call a ret

/-- Takes a mutex. -/
def lock (m : M.Mutex) : Prog M Unit := acquire m (ret ())

/-- Gives a mutex back. -/
def unlock (m : M.Mutex) : Prog M Unit := release m (ret ())

/-- Runs a program under a mutex. -/
def withLock (m : M.Mutex) (p : Prog M α) : Prog M α :=
  acquire m (p.bind fun a => release m (ret a))

@[simp]
theorem bind_eq (p : Prog M α) (f : α → Prog M β) : p >>= f = p.bind f := rfl

@[simp]
theorem pure_eq (a : α) : (pure a : Prog M α) = ret a := rfl

@[simp]
theorem ret_bind (a : α) (f : α → Prog M β) : (ret a).bind f = f a := rfl

@[simp]
theorem call_bind (a : M.Action) (k : M.Result a → Prog M α) (f : α → Prog M β) :
    (call a k).bind f = call a fun r => (k r).bind f := rfl

@[simp]
theorem acquire_bind (m : M.Mutex) (k : Prog M α) (f : α → Prog M β) :
    (acquire m k).bind f = acquire m (k.bind f) := rfl

@[simp]
theorem release_bind (m : M.Mutex) (k : Prog M α) (f : α → Prog M β) :
    (release m k).bind f = release m (k.bind f) := rfl

@[simp]
theorem ite_bind {c : Prop} [Decidable c] (p q : Prog M α) (f : α → Prog M β) :
    (if c then p else q).bind f = if c then p.bind f else q.bind f := by
  split_ifs <;> rfl

theorem bind_assoc (p : Prog M α) (f : α → Prog M β) (g : β → Prog M γ) :
    (p.bind f).bind g = p.bind fun a => (f a).bind g := by
  induction p with
  | ret a => rfl
  | call a k ih =>
    rw [call_bind, call_bind, call_bind]
    exact congrArg (call a) (funext fun r => ih r)
  | acquire m k ih => rw [acquire_bind, acquire_bind, acquire_bind, ih]
  | release m k ih => rw [release_bind, release_bind, release_bind, ih]
  | halt => rfl

end Prog

/-! ## Runs -/

/-- What has happened: an action, with its result and the state that it met, or a step on a mutex. -/
inductive Event (M : Machine) : Type 1
  | action (t : ℕ) (a : M.Action) (result : M.Result a) (before : M.State)
  | acquire (t : ℕ) (m : M.Mutex)
  | release (t : ℕ) (m : M.Mutex)

/-- The events of a run, the latest first. -/
abbrev History (M : Machine) : Type 1 := List (Event M)

/-- Each event of a history satisfies a condition on what came before it. -/
def Always {M : Machine} (cond : Event M → History M → Prop) : History M → Prop
  | [] => True
  | event :: past => cond event past ∧ Always cond past

/-- The shared state, who holds each mutex, what each thread has still to do, and how many threads
have started. -/
structure Config (M : Machine) where
  shared : M.State
  holder : M.Mutex → Option ℕ
  threads : ℕ → Prog M Unit
  started : ℕ

namespace Config

variable {M : Machine} [DecidableEq M.Mutex]

/-- No thread has started and no mutex is taken. -/
def init (s : M.State) : Config M := ⟨s, fun _ => none, fun _ => .ret (), 0⟩

omit [DecidableEq M.Mutex] in
/-- A new thread starts a program. -/
def spawn (c : Config M) (p : Prog M Unit) : Config M :=
  { c with threads := Function.update c.threads c.started p, started := c.started + 1 }

/-- A thread takes its next step. A thread that waits for a mutex has none. -/
def next (c : Config M) (t : ℕ) (o : M.Oracle) : Option (Event M × Config M) :=
  match c.threads t with
  | .ret () => none
  | .call a k =>
    let done := M.perform a o c.shared
    some (.action t a done.1 c.shared,
      { c with shared := done.2, threads := Function.update c.threads t (k done.1) })
  | .acquire m k =>
    if c.holder m = none then some (.acquire t m,
      { c with
        holder := Function.update c.holder m (some t)
        threads := Function.update c.threads t k })
    else none
  | .release m k =>
    if c.holder m = some t then some (.release t m,
      { c with
        holder := Function.update c.holder m none
        threads := Function.update c.threads t k })
    else none
  | .halt => none

omit [DecidableEq M.Mutex] in
/-- The mutex that a thread is about to take. -/
def wants (c : Config M) (t : ℕ) : Option M.Mutex :=
  match c.threads t with
  | .acquire m _ => some m
  | _ => none

omit [DecidableEq M.Mutex] in
/-- A thread waits for a mutex that another one holds. -/
def WaitsFor (c : Config M) (t t' : ℕ) : Prop := ∃ m, c.wants t = some m ∧ c.holder m = some t'

omit [DecidableEq M.Mutex] in
/-- A thread has ended, or has not started. -/
def Idle (c : Config M) (t : ℕ) : Prop := c.threads t = .ret ()

end Config

/-- The mutexes that a thread holds. -/
def heldBy {μ : Type} [Fintype μ] (holder : μ → Option ℕ) (t : ℕ) : Finset μ :=
  Finset.univ.filter fun m => holder m = some t

@[simp]
theorem mem_heldBy {μ : Type} [Fintype μ] {holder : μ → Option ℕ} {t : ℕ} {m : μ} :
    m ∈ heldBy holder t ↔ holder m = some t := by
  simp [heldBy]

/-- A run from a state, with its history: threads start allowed programs and take their steps in any
order. -/
inductive Run {M : Machine} [DecidableEq M.Mutex] (allowed : Prog M Unit → Prop) (s₀ : M.State) :
    History M → Config M → Prop
  | init : Run allowed s₀ [] (Config.init s₀)
  | spawn {history : History M} {c : Config M} {p : Prog M Unit} (run : Run allowed s₀ history c)
      (program : allowed p) : Run allowed s₀ history (c.spawn p)
  | step {history : History M} {c c' : Config M} {t : ℕ} {o : M.Oracle} {event : Event M}
      (run : Run allowed s₀ history c) (next : c.next t o = some (event, c')) :
      Run allowed s₀ (event :: history) c'

/-- What a scheduler does: it starts a program or lets a thread take a step. -/
inductive Move (M : Machine) : Type 1
  | spawn (p : Prog M Unit)
  | step (t : ℕ) (o : M.Oracle)

/-- Executes the moves of a scheduler. -/
def exec {M : Machine} [DecidableEq M.Mutex] (history : History M) (c : Config M) :
    List (Move M) → Option (History M × Config M)
  | [] => some (history, c)
  | .spawn p :: moves => exec history (c.spawn p) moves
  | .step t o :: moves =>
    (c.next t o).bind fun done => exec (done.1 :: history) done.2 moves

/-- The moves of a scheduler make a run, when they start allowed programs only. -/
theorem Run.of_exec {M : Machine} [DecidableEq M.Mutex] {allowed : Prog M Unit → Prop}
    {s₀ : M.State} {history history' : History M} {c c' : Config M} {moves : List (Move M)}
    (hrun : Run allowed s₀ history c) (hmoves : ∀ p, .spawn p ∈ moves → allowed p)
    (hexec : exec history c moves = some (history', c')) : Run allowed s₀ history' c' := by
  induction moves generalizing history c with
  | nil =>
    rw [exec, Option.some.injEq, Prod.mk.injEq] at hexec
    obtain ⟨rfl, rfl⟩ := hexec
    exact hrun
  | cons move moves ih =>
    have hrest : ∀ p, .spawn p ∈ moves → allowed p :=
      fun p hmem => hmoves p (List.mem_cons_of_mem _ hmem)
    cases move with
    | spawn p =>
      rw [exec] at hexec
      exact ih (hrun.spawn (hmoves p List.mem_cons_self)) hrest hexec
    | step t o =>
      rw [exec, Option.bind_eq_some_iff] at hexec
      obtain ⟨⟨event, c₁⟩, hnext, hexec⟩ := hexec
      exact ih (hrun.step hnext) hrest hexec

end Conc
