import Librarian.Lib.Conc.Program

/-!
# Reasoning about threads one at a time

A discipline gives each thread a phase: what the thread can tell of its own past, from the results
of its actions and the mutexes that it has taken and released. It also says which actions, acquisitions and
releases are allowed in which phase, with which mutexes in hand. `wp` checks one program against a
discipline, and no other thread plays a part in that. What the threads do to each other is the
business of an invariant, a relation between the history, the shared state, the phases of all
threads and the holders of all mutexes: `Run.invariant` says that it holds in every run of checked
programs when each allowed action keeps it.

The mutexes need a discipline of their own, `guards`, which has no phases. A program that passes it
is quiet for every other discipline in which the same actions are harmless (`wp_of_guards`).
-/

namespace Conc

variable {M : Machine} {α β γ Φ : Type}

/-- What a thread keeps track of, and what it may do. -/
structure Discipline (M : Machine) (Φ : Type) where
  start : Φ
  /-- The phase after an action, by its result. -/
  next : Φ → (a : M.Action) → M.Result a → Φ
  /-- The phase after an acquisition. -/
  acquire : Φ → M.Mutex → Φ := fun φ _ => φ
  /-- The phase after a release. -/
  release : Φ → M.Mutex → Φ
  /-- The actions that a phase allows, with some mutexes in hand. -/
  allows : Φ → Finset M.Mutex → M.Action → Prop
  /-- The acquisitions that a phase allows, with some mutexes in hand. -/
  locks : Φ → Finset M.Mutex → M.Mutex → Prop
  /-- The releases that a phase allows. -/
  releases : Φ → M.Mutex → Prop

section

variable [DecidableEq M.Mutex]

/-- A program, from a phase and with some mutexes in hand, keeps to a discipline and ends in `Q`. -/
def wp (D : Discipline M Φ) :
    Prog M α → (α → Φ → Finset M.Mutex → Prop) → Φ → Finset M.Mutex → Prop
  | .ret a, Q, φ, H => Q a φ H
  | .call a k, Q, φ, H => D.allows φ H a ∧ ∀ r, wp D (k r) Q (D.next φ a r) H
  | .acquire m k, Q, φ, H => D.locks φ H m ∧ (m ∉ H → wp D k Q (D.acquire φ m) (insert m H))
  | .release m k, Q, φ, H => m ∈ H ∧ D.releases φ m ∧ wp D k Q (D.release φ m) (H.erase m)
  | .halt, _, _, _ => True

/-! ## The rules -/

variable {D : Discipline M Φ} {Q Q' : α → Φ → Finset M.Mutex → Prop} {φ : Φ}
  {H : Finset M.Mutex}

@[simp]
theorem wp_ret {a : α} : wp D (.ret a : Prog M α) Q φ H ↔ Q a φ H := Iff.rfl

@[simp]
theorem wp_call {a : M.Action} {k : M.Result a → Prog M α} :
    wp D (.call a k) Q φ H ↔ D.allows φ H a ∧ ∀ r, wp D (k r) Q (D.next φ a r) H := Iff.rfl

@[simp]
theorem wp_acquire {m : M.Mutex} {k : Prog M α} :
    wp D (.acquire m k) Q φ H ↔
      D.locks φ H m ∧ (m ∉ H → wp D k Q (D.acquire φ m) (insert m H)) := Iff.rfl

@[simp]
theorem wp_release {m : M.Mutex} {k : Prog M α} :
    wp D (.release m k) Q φ H ↔
      m ∈ H ∧ D.releases φ m ∧ wp D k Q (D.release φ m) (H.erase m) := Iff.rfl

@[simp]
theorem wp_halt : wp D (.halt : Prog M α) Q φ H := trivial

@[simp]
theorem wp_ite {c : Prop} [Decidable c] {p q : Prog M α} :
    wp D (if c then p else q) Q φ H ↔ (c → wp D p Q φ H) ∧ (¬c → wp D q Q φ H) := by
  split_ifs with h <;> simp [h]

/-- A weaker end is reached whenever a stronger one is. -/
theorem wp_mono {p : Prog M α} (h : wp D p Q φ H) (hQ : ∀ a φ H, Q a φ H → Q' a φ H) :
    wp D p Q' φ H := by
  induction p generalizing φ H with
  | ret a => exact hQ a φ H h
  | call a k ih => exact ⟨h.1, fun r => ih r (h.2 r)⟩
  | acquire m k ih => exact ⟨h.1, fun hm => ih (h.2 hm)⟩
  | release m k ih => exact ⟨h.1, h.2.1, ih h.2.2⟩
  | halt => trivial

/-- A sequence is checked part by part. -/
theorem wp_bind {p : Prog M α} {f : α → Prog M β} {Q : β → Φ → Finset M.Mutex → Prop} :
    wp D (p.bind f) Q φ H ↔ wp D p (fun a φ H => wp D (f a) Q φ H) φ H := by
  induction p generalizing φ H with
  | ret a => exact Iff.rfl
  | call a k ih =>
    unfold Prog.bind wp
    exact and_congr_right fun _ => forall_congr' fun r => ih r
  | acquire m k ih =>
    unfold Prog.bind wp
    exact and_congr_right fun _ => imp_congr_right fun _ => ih
  | release m k ih =>
    unfold Prog.bind wp
    exact and_congr_right fun _ => and_congr_right fun _ => ih
  | halt => exact Iff.rfl

theorem wp_withLock {m : M.Mutex} {p : Prog M α} :
    wp D (.withLock m p) Q φ H ↔ D.locks φ H m ∧ (m ∉ H → wp D p
      (fun a φ H => m ∈ H ∧ D.releases φ m ∧ Q a (D.release φ m) (H.erase m)) (D.acquire φ m)
      (insert m H)) := by
  unfold Prog.withLock
  rw [wp]
  exact and_congr_right fun _ => imp_congr_right fun _ => wp_bind

/-- The rule for a part whose end is known: the rest starts from there. -/
theorem wp.seq {p : Prog M α} {f : α → Prog M β} {Q' : β → Φ → Finset M.Mutex → Prop}
    (hp : wp D p Q φ H) (hf : ∀ a φ H, Q a φ H → wp D (f a) Q' φ H) :
    wp D (p.bind f) Q' φ H :=
  wp_bind.mpr (wp_mono hp hf)

/-! ## The mutex discipline -/

/-- Actions that satisfy `G` with the mutexes in hand, and acquisitions that satisfy `L`. -/
def guards (G : Finset M.Mutex → M.Action → Prop)
    (L : Finset M.Mutex → M.Mutex → Prop) : Discipline M Unit where
  start := ()
  next _ _ _ := ()
  acquire _ _ := ()
  release _ _ := ()
  allows _ H a := G H a
  locks _ H m := L H m
  releases _ _ := True

omit [DecidableEq M.Mutex] in
@[simp]
theorem guards_allows {G : Finset M.Mutex → M.Action → Prop} {L : Finset M.Mutex → M.Mutex → Prop}
    {u : Unit} {a : M.Action} : (guards G L).allows u H a ↔ G H a := Iff.rfl

omit [DecidableEq M.Mutex] in
@[simp]
theorem guards_locks {G : Finset M.Mutex → M.Action → Prop} {L : Finset M.Mutex → M.Mutex → Prop}
    {u : Unit} {m : M.Mutex} : (guards G L).locks u H m ↔ L H m := Iff.rfl

omit [DecidableEq M.Mutex] in
@[simp]
theorem guards_releases {G : Finset M.Mutex → M.Action → Prop}
    {L : Finset M.Mutex → M.Mutex → Prop} {u : Unit} {m : M.Mutex} :
    (guards G L).releases u m := trivial

/-- A program whose actions satisfy `G` and whose acquisitions satisfy `L`, and that ends with the
mutexes with which it started. -/
def Guarded (G : Finset M.Mutex → M.Action → Prop)
    (L : Finset M.Mutex → M.Mutex → Prop) (p : Prog M α) (H : Finset M.Mutex) : Prop :=
  wp (guards G L) p (fun _ _ H' => H' = H) () H

variable {G G' : Finset M.Mutex → M.Action → Prop}
  {L L' : Finset M.Mutex → M.Mutex → Prop}

/-- Checks both that a program is guarded and that it keeps to a discipline. -/
def Discipline.under (D : Discipline M Φ)
    (G : Finset M.Mutex → M.Action → Prop)
    (L : Finset M.Mutex → M.Mutex → Prop) : Discipline M Φ where
  start := D.start
  next := D.next
  acquire := D.acquire
  release := D.release
  allows φ H a := D.allows φ H a ∧ G H a
  locks φ H m := D.locks φ H m ∧ L H m
  releases := D.releases

theorem wp_under {p : Prog M α} {Q' : α → Unit → Finset M.Mutex → Prop}
    (hG : wp (guards G L) p Q' () H) (h : wp D p Q φ H) :
    wp (D.under G L) p Q φ H := by
  induction p generalizing φ H with
  | ret a => exact h
  | call a k ih => exact ⟨⟨h.1, hG.1⟩, fun r => ih r (hG.2 r) (h.2 r)⟩
  | acquire m k ih => exact ⟨⟨h.1, hG.1⟩, fun hm => ih (hG.2 hm) (h.2 hm)⟩
  | release m k ih => exact ⟨h.1, h.2.1, ih hG.2.2 h.2.2⟩
  | halt => trivial

/-- A guarded program keeps to every discipline in which what it does is harmless: in the phases
of `P` it is allowed, and leads to phases of `P`. It ends with the same results. -/
theorem wp_of_guards_results {P : Φ → Prop} {p : Prog M α} {R : α → Finset M.Mutex → Prop}
    (h : wp (guards G L) p (fun a _ H => R a H) () H) (hφ : P φ)
    (hact : ∀ a φ H, P φ → G H a →
      D.allows φ H a ∧ ∀ r, P (D.next φ a r))
    (hlock : ∀ φ H m, P φ → L H m → D.locks φ H m ∧ P (D.acquire φ m))
    (hrelease : ∀ φ m, P φ → D.releases φ m ∧ P (D.release φ m)) :
    wp D p (fun a φ H => P φ ∧ R a H) φ H := by
  induction p generalizing φ H with
  | ret a => exact ⟨hφ, h⟩
  | call a k ih =>
    obtain ⟨hallowed, hnext⟩ := hact a φ H hφ h.1
    exact ⟨hallowed, fun r => ih r (h.2 r) (hnext r)⟩
  | acquire m k ih =>
    obtain ⟨hallowed, hnext⟩ := hlock φ H m hφ h.1
    exact ⟨hallowed, fun hm => ih (h.2 hm) hnext⟩
  | release m k ih =>
    obtain ⟨hallowed, hnext⟩ := hrelease φ m hφ
    exact ⟨h.1, hallowed, ih h.2.2 hnext⟩
  | halt => trivial

/-- A guarded program, when its result does not matter. -/
theorem wp_of_guards {P : Φ → Prop} {p : Prog M α} {R : Finset M.Mutex → Prop}
    (h : wp (guards G L) p (fun _ _ H => R H) () H) (hφ : P φ)
    (hact : ∀ a φ H, P φ → G H a →
      D.allows φ H a ∧ ∀ r, P (D.next φ a r))
    (hlock : ∀ φ H m, P φ → L H m → D.locks φ H m ∧ P (D.acquire φ m))
    (hrelease : ∀ φ m, P φ → D.releases φ m ∧ P (D.release φ m)) :
    wp D p (fun _ φ H => P φ ∧ R H) φ H :=
  wp_of_guards_results (R := fun _ H => R H) h hφ hact hlock hrelease

/-- Less can be asked of the same program. -/
theorem wp_guards_mono {p : Prog M α} {Q : α → Unit → Finset M.Mutex → Prop} {u : Unit}
    (h : wp (guards G L) p Q u H) (hG : ∀ H a, G H a → G' H a) (hL : ∀ H m, L H m → L' H m) :
    wp (guards G' L') p Q u H := by
  induction p generalizing H with
  | ret a => exact h
  | call a k ih => exact ⟨hG _ _ h.1, fun r => ih r (h.2 r)⟩
  | acquire m k ih => exact ⟨hL _ _ h.1, fun hm => ih (h.2 hm)⟩
  | release m k ih => exact ⟨h.1, h.2.1, ih h.2.2⟩
  | halt => trivial

/-- A guarded part is followed by what comes after it, with the same mutexes in hand. -/
theorem Guarded.seq {p : Prog M α} {f : α → Prog M β}
    {Q : β → Unit → Finset M.Mutex → Prop} (hp : Guarded G L p H)
    (hf : ∀ a, wp (guards G L) (f a) Q () H) : wp (guards G L) (p.bind f) Q () H :=
  wp.seq hp fun a _ _ h => h ▸ hf a

end

/-! ## Invariants -/

section

variable [DecidableEq M.Mutex] [Fintype M.Mutex]

/-- A relation between the history, the state, the phases and the holders that holds at the start
and that every allowed step keeps, as long as the history meets a condition. -/
structure Invariant (D : Discipline M Φ) (cond : Event M → History M → Prop) (s₀ : M.State)
    (I : History M → M.State → (ℕ → Φ) → (M.Mutex → Option ℕ) → Prop) : Prop where
  init : I [] s₀ (fun _ => D.start) (fun _ => none)
  action {history : History M} {s : M.State} {phase : ℕ → Φ} {holder : M.Mutex → Option ℕ}
      (t : ℕ) (a : M.Action) (o : M.Oracle)
      (inv : I history s phase holder) (allowed : D.allows (phase t) (heldBy holder t) a)
      (condition : cond (.action t a (M.perform a o s).1 s) history) :
      I (.action t a (M.perform a o s).1 s :: history) (M.perform a o s).2
        (Function.update phase t (D.next (phase t) a (M.perform a o s).1)) holder
  acquire {history : History M} {s : M.State} {phase : ℕ → Φ} {holder : M.Mutex → Option ℕ}
      (t : ℕ) (m : M.Mutex) (inv : I history s phase holder)
      (allowed : D.locks (phase t) (heldBy holder t) m) (free : holder m = none) :
      I (.acquire t m :: history) s (Function.update phase t (D.acquire (phase t) m))
        (Function.update holder m (some t))
  release {history : History M} {s : M.State} {phase : ℕ → Φ} {holder : M.Mutex → Option ℕ}
      (t : ℕ) (m : M.Mutex) (inv : I history s phase holder)
      (allowed : D.releases (phase t) m) (holds : holder m = some t) :
      I (.release t m :: history) s (Function.update phase t (D.release (phase t) m))
        (Function.update holder m none)

theorem heldBy_acquire {μ : Type} [DecidableEq μ] [Fintype μ] {holder : μ → Option ℕ} {t : ℕ}
    {m : μ} (hfree : holder m = none) (t' : ℕ) :
    heldBy (Function.update holder m (some t)) t' =
      if t' = t then insert m (heldBy holder t) else heldBy holder t' := by
  ext m'
  by_cases ht : t' = t <;> by_cases hm : m' = m <;> simp_all [Function.update, eq_comm]

theorem heldBy_release {μ : Type} [DecidableEq μ] [Fintype μ] {holder : μ → Option ℕ} {t : ℕ}
    {m : μ} (hholds : holder m = some t) (t' : ℕ) :
    heldBy (Function.update holder m none) t' =
      if t' = t then (heldBy holder t).erase m else heldBy holder t' := by
  ext m'
  by_cases ht : t' = t <;> by_cases hm : m' = m <;> simp_all [Function.update, eq_comm]

/-- What is known of every thread in a run of checked programs: its phase and the rest of its
program fit together, and threads that have not started have done nothing. -/
structure Checked (D : Discipline M Φ) (done : Φ → Prop) (phase : ℕ → Φ) (c : Config M) :
    Prop where
  wp (t : ℕ) :
    wp D (c.threads t) (fun _ φ H => done φ ∧ H = ∅) (phase t) (heldBy c.holder t)
  unstarted (t : ℕ) (h : c.started ≤ t) : c.threads t = .ret () ∧ phase t = D.start

/-- A thread that has started is not the next one to start. -/
theorem Checked.lt_started {D : Discipline M Φ} {done : Φ → Prop} {phase : ℕ → Φ}
    {c : Config M} (h : Checked D done phase c) {t : ℕ} (ht : c.threads t ≠ .ret ()) :
    t < c.started := by
  by_contra hle
  exact ht (h.unstarted t (not_lt.mp hle)).1

/-- One thread moves on: it has the phase and the mutexes of the rest of its program, and the others
keep theirs. -/
theorem Checked.step {D : Discipline M Φ} {done : Φ → Prop} {phase phase' : ℕ → Φ}
    {c c' : Config M} (h : Checked D done phase c) {t : ℕ} {k : Prog M Unit}
    (hthreads : c'.threads = Function.update c.threads t k) (hstarted : c'.started = c.started)
    (hlive : c.threads t ≠ .ret ())
    (hk : Conc.wp D k (fun _ φ H => done φ ∧ H = ∅) (phase' t) (heldBy c'.holder t))
    (hphase : ∀ t' ≠ t, phase' t' = phase t')
    (hheld : ∀ t' ≠ t, heldBy c'.holder t' = heldBy c.holder t') :
    Checked D done phase' c' where
  wp t' := by
    by_cases ht : t' = t
    · subst ht
      rw [hthreads, Function.update_self]
      exact hk
    · rw [hthreads, Function.update_of_ne ht, hphase t' ht, hheld t' ht]
      exact h.wp t'
  unstarted t' ht' := by
    have hne : t' ≠ t := by
      have := h.lt_started hlive
      omega
    rw [hthreads, Function.update_of_ne hne, hphase t' hne]
    exact h.unstarted t' (hstarted ▸ ht')

/-- An invariant of a discipline holds in every run of programs that keep to it. -/
theorem Run.invariant {D : Discipline M Φ} {done : Φ → Prop}
    {cond : Event M → History M → Prop} {s₀ : M.State}
    {I : History M → M.State → (ℕ → Φ) → (M.Mutex → Option ℕ) → Prop}
    {allowed : Prog M Unit → Prop} {history : History M} {c : Config M}
    (hI : Invariant D cond s₀ I) (hdone : done D.start)
    (hallowed : ∀ p, allowed p → wp D p (fun _ φ H => done φ ∧ H = ∅) D.start ∅)
    (hrun : Run allowed s₀ history c) (hcond : Always cond history) :
    ∃ phase, I history c.shared phase c.holder ∧ Checked D done phase c := by
  induction hrun with
  | init =>
    refine ⟨fun _ => D.start, hI.init, fun t => ?_, fun t _ => ⟨rfl, rfl⟩⟩
    exact ⟨hdone, by simp [Config.init, heldBy]⟩
  | @spawn history c p run program ih =>
    obtain ⟨phase, hinv, hchecked⟩ := ih hcond
    refine ⟨phase, hinv, fun t => ?_, fun t ht => ?_⟩
    · by_cases ht : t = c.started
      · subst ht
        -- The new thread has done nothing yet: it is in the first phase and holds no mutex.
        obtain ⟨hret, hphase⟩ := hchecked.unstarted c.started le_rfl
        have hheld := hchecked.wp c.started
        rw [hret] at hheld
        simp only [Config.spawn, Function.update_self]
        rw [hphase, hheld.2]
        exact hallowed p program
      · simp only [Config.spawn, Function.update_of_ne ht]
        exact hchecked.wp t
    · simp only [Config.spawn] at ht ⊢
      rw [Function.update_of_ne (by omega)]
      exact hchecked.unstarted t (by omega)
  | @step history c c' t o event run next ih =>
    obtain ⟨phase, hinv, hchecked⟩ := ih hcond.2
    have hwp := hchecked.wp t
    unfold Config.next at next
    split at next
    case h_1 => cases next
    case h_2 a k hthread =>
      rw [hthread] at hwp
      simp only [Option.some.injEq, Prod.mk.injEq] at next
      obtain ⟨rfl, rfl⟩ := next
      refine ⟨_, hI.action t a o hinv hwp.1 hcond.1, ?_⟩
      refine hchecked.step rfl rfl (by simp [hthread]) ?_ (fun t' ht => ?_) (fun _ _ => rfl)
      · simpa using hwp.2 (M.perform a o c.shared).1
      · exact Function.update_of_ne ht _ _
    case h_3 m k hthread =>
      rw [hthread] at hwp
      split_ifs at next with hfree
      simp only [Option.some.injEq, Prod.mk.injEq] at next
      obtain ⟨rfl, rfl⟩ := next
      have hheld := heldBy_acquire (t := t) hfree
      refine ⟨_, hI.acquire t m hinv hwp.1 hfree, ?_⟩
      refine hchecked.step rfl rfl (by simp [hthread]) ?_ (fun t' ht => ?_) (fun t' ht => ?_)
      · rw [hheld t, if_pos rfl, Function.update_self]
        exact hwp.2 (by simp [hfree])
      · exact Function.update_of_ne ht _ _
      · rw [hheld t', if_neg ht]
    case h_4 m k hthread =>
      rw [hthread] at hwp
      split_ifs at next with hholds
      simp only [Option.some.injEq, Prod.mk.injEq] at next
      obtain ⟨rfl, rfl⟩ := next
      have hheld := heldBy_release hholds
      refine ⟨_, hI.release t m hinv hwp.2.1 hholds, ?_⟩
      refine hchecked.step rfl rfl (by simp [hthread]) ?_ (fun t' ht => ?_) (fun t' ht => ?_)
      · rw [hheld t, if_pos rfl, Function.update_self]
        exact hwp.2.2
      · exact Function.update_of_ne ht _ _
      · rw [hheld t', if_neg ht]
    case h_5 => cases next

omit [DecidableEq M.Mutex] [Fintype M.Mutex] in
theorem always_true (history : History M) : Always (fun _ _ => True) history := by
  induction history with
  | nil => trivial
  | cons event past ih => exact ⟨trivial, ih⟩

omit [Fintype M.Mutex] in
/-- The latest event of a run was a step from a configuration that a run had reached before. -/
theorem Run.last {allowed : Prog M Unit → Prop} {s₀ : M.State} {history : History M}
    {event : Event M} {c : Config M} (hrun : Run allowed s₀ (event :: history) c) :
    ∃ c₀ c₁ t o, Run allowed s₀ history c₀ ∧ c₀.next t o = some (event, c₁) := by
  generalize heq : event :: history = events at hrun
  induction hrun with
  | init => cases heq
  | spawn run program ih => exact ih heq
  | @step history' c₀ c₁ t o event' run next ih =>
    obtain ⟨rfl, rfl⟩ := List.cons.inj heq
    exact ⟨c₀, c₁, t, o, run, next⟩

/-- Whenever an action is performed in a run of checked programs, the invariant holds before it and
the thread's phase allows it. -/
theorem Run.allowed {D : Discipline M Φ} {done : Φ → Prop}
    {cond : Event M → History M → Prop} {s₀ : M.State}
    {I : History M → M.State → (ℕ → Φ) → (M.Mutex → Option ℕ) → Prop}
    {allowed : Prog M Unit → Prop} {history : History M} {c : Config M} {t : ℕ} {a : M.Action}
    {result : M.Result a} {s : M.State}
    (hI : Invariant D cond s₀ I) (hdone : done D.start)
    (hallowed : ∀ p, allowed p → wp D p (fun _ φ H => done φ ∧ H = ∅) D.start ∅)
    (hrun : Run allowed s₀ (.action t a result s :: history) c) (hcond : Always cond history) :
    ∃ phase holder, I history s phase holder ∧ D.allows (phase t) (heldBy holder t) a := by
  obtain ⟨c₀, c₁, t', o, hrun, hnext⟩ := hrun.last
  obtain ⟨phase, hinv, hchecked⟩ := Run.invariant hI hdone hallowed hrun hcond
  have hwp := hchecked.wp t'
  unfold Config.next at hnext
  split at hnext
  case h_1 => cases hnext
  case h_2 a' k hthread =>
    rw [hthread] at hwp
    cases hnext
    exact ⟨phase, c₀.holder, hinv, hwp.1⟩
  case h_3 =>
    split_ifs at hnext
    cases hnext
  case h_4 =>
    split_ifs at hnext
    cases hnext
  case h_5 => cases hnext

/-- A program that is part of a run of checked programs wants only what its phase allows. -/
theorem Checked.locks {D : Discipline M Φ} {done : Φ → Prop} {phase : ℕ → Φ} {c : Config M}
    (h : Checked D done phase c) {t : ℕ} {m : M.Mutex} (hwants : c.wants t = some m) :
    D.locks (phase t) (heldBy c.holder t) m := by
  have hwp := h.wp t
  unfold Config.wants at hwants
  split at hwants
  case h_1 hthread =>
    rw [hthread] at hwp
    cases hwants
    exact hwp.1
  case h_2 => cases hwants

end

end Conc
