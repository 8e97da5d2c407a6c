import Librarian.Agent.GateSections

/-!
# What a thread knows before it makes a change durable

Every mutation checks under the commit gate, just before its commit, that no Lock is in progress and
that the epoch is still the one of its request. That the agent has not been locked in the meantime,
without the epoch telling so, needs more: the epoch and the state are two atomics, which are read one
after the other. A thread that has read an epoch knows that the epoch is at least that. If it then
reads `Unlocked`, the agent was open at a moment when the epoch was at least that, and whatever locks
the agent afterwards advances the epoch. So it vouches for the epoch it has read before.
-/

namespace Librarian.Agent

open Conc Librarian.Core Librarian.Protocol

variable {P : Primitives} {α β : Type}

/-! ## Open and closed -/

/-- The vault is unlocked, or is being unlocked. -/
def IsOpen (state : AgentState) : Prop := state = .unlocked ∨ state = .unlocking

instance (state : AgentState) : Decidable (IsOpen state) := inferInstanceAs (Decidable (_ ∨ _))

/-- The agent is opened: an unlock begins, or a created vault is published. -/
def Opens : Event (machine P) → Prop
  | .action _ (.storeState state) _ _ => IsOpen state
  | .action _ (.compareExchangeState current new) true _ => IsOpen new ∧ ¬IsOpen current
  | _ => False

/-- The epoch is advanced while the agent is not open: the gate section of a Lock, of a failure of
the core or of the shutdown. -/
def Closes : Event (machine P) → Prop
  | .action _ .incrementEpoch (.ok ()) s => ¬IsOpen s.state
  | _ => False

/-- The agent has been closed and not been opened since. -/
def Closed : History (machine P) → Prop
  | [] => False
  | event :: history => Closes event ∨ Closed history ∧ ¬Opens event

/-- A thread has begun the request with a key, for an unlock epoch. -/
def Begun (history : History (machine P)) (t : ℕ) (key : RequestKey) (unlock_epoch : ℕ) : Prop :=
  ∃ connection header envelope current_unlock_epoch permit s,
    .action t (.beginRequest connection header envelope current_unlock_epoch) (.ok permit) s ∈
      history ∧
    key = ⟨connection.connection_id, permit.request_id⟩ ∧ unlock_epoch = permit.unlock_epoch

theorem Begun.cons {history : History (machine P)} {t : ℕ} {key : RequestKey} {unlock_epoch : ℕ}
    (h : Begun history t key unlock_epoch) (event : Event (machine P)) :
    Begun (event :: history) t key unlock_epoch := by
  obtain ⟨connection, header, envelope, current, permit, s, hmem, hkey, hepoch⟩ := h
  exact ⟨connection, header, envelope, current, permit, s, List.mem_cons_of_mem _ hmem, hkey, hepoch⟩

section

variable {history : History (machine P)} {s : Shared} {a : Action P} {t : ℕ}

/-- Only an action under the commit gate closes the agent. -/
theorem Closes.guard {result : a.Result} (h : Closes (.action t a result s)) :
    .commitGate ∈ a.guard := by
  cases a with
  | incrementEpoch => simp [Action.guard]
  | _ => exact h.elim

/-- What closes the agent advances the epoch. -/
theorem Closes.epoch_lt {o : Oracle} (h : Closes (.action t a (perform a o s).1 s)) :
    s.epoch < (perform a o s).2.epoch := by
  cases a with
  | incrementEpoch =>
    cases hnext : checkedAddOne s.epoch with
    | none =>
      rw [show (perform (P := P) .incrementEpoch o s).1 = .error .internal by
        simp [perform, hnext]] at h
      exact h.elim
    | some next =>
      have hone : next = s.epoch + 1 := by
        unfold checkedAddOne at hnext
        split_ifs at hnext
        exact (Option.some.inj hnext).symm
      have hperform : (perform (P := P) .incrementEpoch o s).2.epoch = next := by
        simp [perform, hnext]
      omega
  | _ => exact h.elim

/-- The epoch never falls. -/
theorem perform_epoch_le (a : Action P) (o : Oracle) (s : Shared) :
    s.epoch ≤ (perform a o s).2.epoch := by
  by_cases hguard : .commitGate ∈ a.guard
  · cases a with
    | incrementEpoch =>
      dsimp only [perform]
      cases hnext : checkedAddOne s.epoch with
      | none => exact le_rfl
      | some next =>
        unfold checkedAddOne at hnext
        split_ifs at hnext
        have hone := Option.some.inj hnext
        show s.epoch ≤ next
        omega
    | _ => first
      | exact le_rfl
      | (dsimp only [perform, Shared.onConnection]; split <;> exact le_rfl)
      | (dsimp only [perform]; split_ifs <;> exact le_rfl)
  · exact (perform_epoch hguard o s).ge

/-- The state becomes open only by what opens the agent. -/
theorem isOpen_of_perform {o : Oracle} (hopen : IsOpen (perform a o s).2.state) :
    IsOpen s.state ∨ Opens (.action t a (perform a o s).1 s) := by
  cases a with
  | storeState state => exact .inr hopen
  | compareExchangeState current new =>
    by_cases hstate : s.state = current
    · have hperform : perform (P := P) (.compareExchangeState current new) o s =
          (true, { s with state := new }) := if_pos hstate
      rw [hperform] at hopen ⊢
      by_cases hcurrent : IsOpen current
      · exact .inl (hstate ▸ hcurrent)
      · exact .inr ⟨hopen, hcurrent⟩
    · rw [show perform (P := P) (.compareExchangeState current new) o s = (false, s) from
        if_neg hstate] at hopen
      exact .inl hopen
  | setLockedUnlessShuttingDown =>
    left
    by_cases hstate : s.state = .updating ∨ s.state = .shuttingDown
    · rwa [show perform (P := P) .setLockedUnlessShuttingDown o s = ((), s) from
        if_pos hstate] at hopen
    · rw [show perform (P := P) .setLockedUnlessShuttingDown o s =
        ((), { s with state := .locked }) from if_neg hstate] at hopen
      simp [IsOpen] at hopen
  | _ => first
    | exact .inl hopen
    | (left; dsimp only [perform, Shared.onConnection] at hopen; split at hopen <;> exact hopen)
    | (left; dsimp only [perform] at hopen; split_ifs at hopen <;> exact hopen)

/-- What does not close the agent does not leave an open agent closed. -/
theorem not_closed_cons {event : Event (machine P)} (h : ¬Closed history) (hcloses : ¬Closes event) :
    ¬Closed (event :: history) := by
  rintro (hnow | ⟨hbefore, -⟩)
  · exact hcloses hnow
  · exact h hbefore

end

/-! ## The discipline -/

/-- What a thread knows that is about to make a change durable. -/
structure Committing where
  /-- The request that the thread has begun, with its unlock epoch. -/
  request : Option (RequestKey × ℕ) := none
  /-- Epochs that have been reached. -/
  reached : Set ℕ := ∅
  /-- Epochs at which the agent has been open, if the epoch is still the same. -/
  vouched : Set ℕ := ∅
  /-- The state was read as `Unlocking` in the present section under the commit gate. -/
  opening : Bool := false

namespace Committing

/-- The phase after an action. -/
def next : Committing → (a : Action P) → a.Result → Committing := fun φ a r =>
  match a, r with
  | .beginRequest connection _ _ _, .ok permit =>
    { φ with
      request := some (⟨connection.connection_id, permit.request_id⟩, permit.unlock_epoch) }
  | .loadEpoch, epoch => { φ with reached := insert epoch φ.reached }
  | .loadState, .unlocked => { φ with vouched := φ.vouched ∪ φ.reached }
  | .loadState, .unlocking => { φ with opening := true }
  | .incrementEpoch, _ => { φ with opening := false }
  | _, _ => φ

/-- The phase after an acquisition. -/
def acquire (φ : Committing) (m : Mutex) : Committing :=
  if m = .commitGate then { φ with opening := false } else φ

/-- What is to be known before a commit. -/
def Permits (φ : Committing) (seen : Seen) : Origin → Prop
  | .request key unlock_epoch => φ.request = some (key, unlock_epoch) ∧
      unlock_epoch ∈ φ.vouched ∧ seen.epoch = some unlock_epoch ∧ seen.uncancelled = some key
  | .disconnectedCreation => ∃ epoch ∈ φ.vouched, seen.epoch = some epoch
  | .recoveredCreation => φ.opening = true

/-- What a phase allows. -/
def allows (seen : Option Seen) (φ : Committing) : Action P → Prop
  | .commit origin _ => ∃ known, seen = some known ∧ known.lockClear = true ∧ φ.Permits known origin
  | _ => True

/-- A later phase of the same request. -/
structure Extends (φ φ' : Committing) : Prop where
  request : φ'.request = φ.request
  reached : φ.reached ⊆ φ'.reached
  vouched : φ.vouched ⊆ φ'.vouched

theorem Extends.refl (φ : Committing) : φ.Extends φ := ⟨rfl, subset_rfl, subset_rfl⟩

theorem Extends.trans {φ₁ φ₂ φ₃ : Committing} (h : φ₁.Extends φ₂) (h' : φ₂.Extends φ₃) :
    φ₁.Extends φ₃ :=
  ⟨h'.request.trans h.request, h.reached.trans h'.reached, h.vouched.trans h'.vouched⟩

/-- What a thread knows stays with it until it begins another request. -/
theorem extends_next (φ : Committing) {a : Action P} (h : a.kind ≠ .admission) (r : a.Result) :
    φ.Extends (φ.next a r) := by
  cases a with
  | beginRequest => exact absurd rfl h
  | loadEpoch => exact ⟨rfl, Set.subset_insert _ _, subset_rfl⟩
  | loadState =>
    cases r with
    | unlocked => exact ⟨rfl, subset_rfl, Set.subset_union_left⟩
    | _ => exact ⟨rfl, subset_rfl, subset_rfl⟩
  | _ => exact ⟨rfl, subset_rfl, subset_rfl⟩

theorem extends_acquire (φ : Committing) (m : Mutex) : φ.Extends (φ.acquire m) := by
  unfold acquire
  split_ifs
  · exact ⟨rfl, subset_rfl, subset_rfl⟩
  · exact Extends.refl φ

theorem allows_of_kind {seen : Option Seen} {φ : Committing} {a : Action P} (h : a.kind ≠ .write) :
    φ.allows seen a := by
  cases a with
  | commit => exact absurd rfl h
  | _ => trivial

end Committing

/-- The discipline of what is made durable. -/
def committing (P : Primitives) : Discipline (machine P) (Option Seen × Committing) :=
  knowing {} Committing.next (fun φ _ => φ) Committing.allows Committing.acquire

/-! ## The invariant -/

section

variable {history : History (machine P)} {s : Shared} {a : Action P} {t : ℕ} {o : Oracle}
  {φ : Committing} {epoch : ℕ} {key : RequestKey}

theorem Committing.of_request_next
    (h : (φ.next a (perform a o s).1).request = some (key, epoch)) :
    φ.request = some (key, epoch) ∨
      Begun (.action t a (perform a o s).1 s :: history) t key epoch := by
  cases a with
  | beginRequest connection header envelope current =>
    generalize (perform (P := P) (.beginRequest connection header envelope current) o s).1 =
      result at h
    cases result with
    | error e => exact .inl h
    | ok permit =>
      obtain ⟨rfl, rfl⟩ := Prod.mk.inj (Option.some.inj h)
      exact .inr ⟨connection, header, envelope, current, permit, s, List.mem_cons_self, rfl, rfl⟩
  | loadState =>
    left
    generalize (perform (P := P) .loadState o s).1 = state at h
    cases state <;> exact h
  | _ => exact .inl h

theorem Committing.of_reached_next (h : epoch ∈ (φ.next a (perform a o s).1).reached) :
    epoch ∈ φ.reached ∨ epoch = s.epoch := by
  cases a with
  | loadEpoch =>
    obtain rfl | hold := Set.mem_insert_iff.mp h
    · exact .inr rfl
    · exact .inl hold
  | beginRequest connection header envelope current =>
    generalize (perform (P := P) (.beginRequest connection header envelope current) o s).1 =
      result at h
    cases result <;> exact .inl h
  | loadState =>
    left
    generalize (perform (P := P) .loadState o s).1 = state at h
    cases state <;> exact h
  | _ => exact .inl h

theorem Committing.of_vouched_next (h : epoch ∈ (φ.next a (perform a o s).1).vouched) :
    epoch ∈ φ.vouched ∨ epoch ∈ φ.reached ∧ IsOpen s.state := by
  cases a with
  | loadState =>
    have hresult : (perform (P := P) .loadState o s).1 = s.state := rfl
    rw [hresult] at h
    cases hstate : s.state with
    | unlocked =>
      rw [hstate] at h
      obtain hold | hnew := h
      · exact .inl hold
      · exact .inr ⟨hnew, .inl rfl⟩
    | _ =>
      rw [hstate] at h
      exact .inl h
  | beginRequest connection header envelope current =>
    generalize (perform (P := P) (.beginRequest connection header envelope current) o s).1 =
      result at h
    cases result <;> exact .inl h
  | _ => exact .inl h

theorem Committing.of_opening_next (h : (φ.next a (perform a o s).1).opening = true) :
    ¬Closes (.action t a (perform a o s).1 s) ∧ (φ.opening = true ∨ IsOpen s.state) := by
  cases a with
  | loadState =>
    have hresult : (perform (P := P) .loadState o s).1 = s.state := rfl
    rw [hresult] at h
    refine ⟨fun hcloses => hcloses, ?_⟩
    cases hstate : s.state with
    | unlocking => exact .inr (.inr rfl)
    | _ =>
      rw [hstate] at h
      exact .inl h
  | beginRequest connection header envelope current =>
    refine ⟨fun hcloses => hcloses, .inl ?_⟩
    generalize (perform (P := P) (.beginRequest connection header envelope current) o s).1 =
      result at h
    cases result <;> exact h
  | incrementEpoch => exact absurd h (by simp [next])
  | _ => exact ⟨fun hcloses => hcloses, .inl h⟩

end

/-- How the books of the threads fit the history and the shared state. -/
structure CommitBooks (history : History (machine P)) (s : Shared)
    (phase : ℕ → Option Seen × Committing) (holder : Mutex → Option ℕ) : Prop where
  informed : Informed s phase holder
  state : IsOpen s.state → ¬Closed history
  begun (t : ℕ) (key : RequestKey) (epoch : ℕ) (h : (phase t).2.request = some (key, epoch)) :
    Begun history t key epoch
  reached (t epoch : ℕ) (h : epoch ∈ (phase t).2.reached) : epoch ≤ s.epoch
  vouched (t epoch : ℕ) (h : epoch ∈ (phase t).2.vouched) :
    epoch ≤ s.epoch ∧ (s.epoch = epoch → ¬Closed history)
  opening (t : ℕ) (h : (phase t).2.opening = true) (hgate : holder .commitGate = some t) :
    ¬Closed history

section

variable {history : History (machine P)} {s : Shared} {phase : ℕ → Option Seen × Committing}
  {holder : Mutex → Option ℕ} {t : ℕ} {a : Action P}

/-- The agent is not closed while it is open. -/
theorem CommitBooks.state_action (h : CommitBooks history s phase holder) (o : Oracle)
    (hopen : IsOpen (perform a o s).2.state) :
    ¬Closed (.action t a (perform a o s).1 s :: history) := by
  have hcloses : ¬Closes (.action t a (perform a o s).1 s) := by
    intro hcloses
    have hstate : (perform a o s).2.state = s.state := by
      cases a with
      | incrementEpoch =>
        dsimp only [perform]
        split <;> rfl
      | _ => exact hcloses.elim
    cases a with
    | incrementEpoch =>
      generalize (perform (P := P) .incrementEpoch o s).1 = result at hcloses
      cases result with
      | error e => exact hcloses
      | ok u => exact hcloses (hstate ▸ hopen)
    | _ => exact hcloses
  rintro (hnow | ⟨hbefore, hnot⟩)
  · exact hcloses hnow
  · obtain hstate | hopens := isOpen_of_perform hopen
    · exact h.state hstate hbefore
    · exact hnot hopens

theorem CommitBooks.action (h : CommitBooks history s phase holder)
    (hguard : a.guard ⊆ heldBy holder t) (o : Oracle) :
    CommitBooks (.action t a (perform a o s).1 s :: history) (perform a o s).2
      (Function.update phase t ((committing P).next (phase t) a (perform a o s).1)) holder := by
  have hle : s.epoch ≤ (perform a o s).2.epoch := perform_epoch_le a o s
  have hself : (Function.update phase t ((committing P).next (phase t) a (perform a o s).1) t).2 =
      (phase t).2.next a (perform a o s).1 := by
    rw [Function.update_self]
    rfl
  have hother {t' : ℕ} (ht : t' ≠ t) : Function.update phase t
      ((committing P).next (phase t) a (perform a o s).1) t' = phase t' :=
    Function.update_of_ne ht _ _
  -- An epoch that a thread has vouched for is either past or stays vouched for.
  have hkept {epoch : ℕ} (hepoch : epoch ≤ s.epoch) (hclosed : s.epoch = epoch → ¬Closed history) :
      epoch ≤ (perform a o s).2.epoch ∧ ((perform a o s).2.epoch = epoch →
        ¬Closed (.action t a (perform a o s).1 s :: history)) := by
    refine ⟨by omega, fun hnow => not_closed_cons (hclosed (by omega)) fun hcloses => ?_⟩
    have hlt := hcloses.epoch_lt
    omega
  refine ⟨h.informed.action hguard o _, h.state_action o, fun t' key epoch hφ => ?_,
    fun t' epoch hφ => ?_, fun t' epoch hφ => ?_, fun t' hφ hgate => ?_⟩
  · by_cases ht : t' = t
    · subst ht
      rw [hself] at hφ
      have hnow : (phase t').2.request = some (key, epoch) ∨
          Begun (.action t' a (perform a o s).1 s :: history) t' key epoch :=
        Committing.of_request_next hφ
      obtain hold | hnew := hnow
      · exact (h.begun t' key epoch hold).cons _
      · exact hnew
    · rw [hother ht] at hφ
      exact (h.begun t' key epoch hφ).cons _
  · by_cases ht : t' = t
    · subst ht
      rw [hself] at hφ
      obtain hold | rfl := Committing.of_reached_next hφ
      · exact (h.reached t' epoch hold).trans hle
      · exact hle
    · rw [hother ht] at hφ
      exact (h.reached t' epoch hφ).trans hle
  · by_cases ht : t' = t
    · subst ht
      rw [hself] at hφ
      obtain hold | ⟨hnew, hopen⟩ := Committing.of_vouched_next hφ
      · obtain ⟨hepoch, hclosed⟩ := h.vouched t' epoch hold
        exact hkept hepoch hclosed
      · exact hkept (h.reached t' epoch hnew) fun _ => h.state hopen
    · rw [hother ht] at hφ
      obtain ⟨hepoch, hclosed⟩ := h.vouched t' epoch hφ
      exact hkept hepoch hclosed
  · by_cases ht : t' = t
    · subst ht
      rw [hself] at hφ
      obtain ⟨hcloses, hopening | hopen⟩ := Committing.of_opening_next (t := t') hφ
      · exact not_closed_cons (h.opening t' hopening hgate) hcloses
      · exact not_closed_cons (h.state hopen) hcloses
    · rw [hother ht] at hφ
      refine not_closed_cons (h.opening t' hφ hgate) fun hcloses => ?_
      -- Whoever closes the agent holds the gate.
      have hheld : holder .commitGate = some t := mem_heldBy.mp (hguard hcloses.guard)
      rw [hgate] at hheld
      exact ht (Option.some.inj hheld)

/-- A step on a mutex neither opens nor closes the agent. -/
theorem closed_cons_iff {event : Event (machine P)} (hcloses : ¬Closes event)
    (hopens : ¬Opens event) : Closed (event :: history) ↔ Closed history := by
  simp [Closed, hcloses, hopens]

theorem CommitBooks.acquire (h : CommitBooks history s phase holder) {m : Mutex}
    (hfree : holder m = none) :
    CommitBooks (.acquire t m :: history) s
      (Function.update phase t ((committing P).acquire (phase t) m))
      (Function.update holder m (some t)) := by
  have hclosed : Closed (.acquire t m :: history) ↔ Closed history := closed_cons_iff id id
  have hphase (t' : ℕ) : (phase t').2.Extends
      (Function.update phase t ((committing P).acquire (phase t) m) t').2 := by
    by_cases ht : t' = t
    · subst ht
      rw [Function.update_self]
      exact (phase t').2.extends_acquire m
    · rw [Function.update_of_ne ht]
      exact Committing.Extends.refl _
  -- Nothing new is known either.
  have hsame (t' : ℕ) : (Function.update phase t ((committing P).acquire (phase t) m) t').2 =
      (phase t').2.acquire m ∨
      (Function.update phase t ((committing P).acquire (phase t) m) t').2 = (phase t').2 := by
    by_cases ht : t' = t
    · subst ht
      rw [Function.update_self]
      exact .inl rfl
    · rw [Function.update_of_ne ht]
      exact .inr rfl
  have hreached (t' : ℕ) : (Function.update phase t
      ((committing P).acquire (phase t) m) t').2.reached = (phase t').2.reached := by
    obtain heq | heq := hsame t' <;> rw [heq]
    unfold Committing.acquire
    split_ifs <;> rfl
  have hvouched (t' : ℕ) : (Function.update phase t
      ((committing P).acquire (phase t) m) t').2.vouched = (phase t').2.vouched := by
    obtain heq | heq := hsame t' <;> rw [heq]
    unfold Committing.acquire
    split_ifs <;> rfl
  refine ⟨h.informed.acquire hfree _, fun hopen => ?_, fun t' key epoch hφ => ?_,
    fun t' epoch hφ => ?_, fun t' epoch hφ => ?_, fun t' hφ hgate => ?_⟩
  · rw [hclosed]
    exact h.state hopen
  · rw [(hphase t').request] at hφ
    exact (h.begun t' key epoch hφ).cons _
  · rw [hreached] at hφ
    exact h.reached t' epoch hφ
  · rw [hvouched] at hφ
    rw [hclosed]
    exact h.vouched t' epoch hφ
  · rw [hclosed]
    by_cases hm : m = .commitGate
    · subst hm
      rw [Function.update_self] at hgate
      obtain rfl := Option.some.inj hgate
      rw [Function.update_self] at hφ
      exact absurd hφ (by simp [committing, knowing, Committing.acquire])
    · rw [Function.update_of_ne (Ne.symm hm)] at hgate
      refine h.opening t' ?_ hgate
      obtain heq | heq := hsame t'
      · rwa [heq, Committing.acquire, if_neg hm] at hφ
      · rwa [heq] at hφ

theorem CommitBooks.release (h : CommitBooks history s phase holder) {m : Mutex}
    (hholds : holder m = some t) :
    CommitBooks (.release t m :: history) s
      (Function.update phase t ((committing P).release (phase t) m))
      (Function.update holder m none) := by
  have hclosed : Closed (.release t m :: history) ↔ Closed history := closed_cons_iff id id
  have hphase (t' : ℕ) : (Function.update phase t ((committing P).release (phase t) m) t').2 =
      (phase t').2 := by
    by_cases ht : t' = t
    · subst ht
      rw [Function.update_self]
      rfl
    · rw [Function.update_of_ne ht]
  refine ⟨h.informed.release hholds _, fun hopen => ?_, fun t' key epoch hφ => ?_,
    fun t' epoch hφ => ?_, fun t' epoch hφ => ?_, fun t' hφ hgate => ?_⟩
  · rw [hclosed]
    exact h.state hopen
  · rw [hphase] at hφ
    exact (h.begun t' key epoch hφ).cons _
  · rw [hphase] at hφ
    exact h.reached t' epoch hφ
  · rw [hphase] at hφ
    rw [hclosed]
    exact h.vouched t' epoch hφ
  · rw [hphase] at hφ
    rw [hclosed]
    have hm : m ≠ .commitGate := by
      rintro rfl
      rw [Function.update_self] at hgate
      cases hgate
    rw [Function.update_of_ne hm.symm] at hgate
    exact h.opening t' hφ hgate

end

/-- The books are kept in every run. -/
theorem committing_invariant (vault_exists : Bool) :
    Invariant (committing P) (fun _ _ => True) (Shared.start vault_exists) CommitBooks where
  init := ⟨fun _ _ h => (by cases h), fun _ h => h, fun _ _ _ h => (by cases h),
    fun _ _ h => h.elim, fun _ _ h => h.elim, fun _ h => (by cases h)⟩
  action _ _ o inv allowed _ := inv.action allowed.1 o
  acquire _ _ inv _ free := inv.acquire free
  release _ _ inv _ holds := inv.release holds

end Librarian.Agent
