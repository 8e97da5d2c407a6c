import Librarian.Agent.RequestGuards

/-!
# Sections under the commit gate

What decides about a request is read under the commit gate, and acted upon before the gate is given
back. The epoch, the Lock's flag, the cancellation of a request and the generation of the accounts
change under the gate only, so that a thread that has read them there knows them until it gives the
gate back, whatever the others do meanwhile. The published state is not protected in this way: of it
a section only tells that it was read.
-/

namespace Librarian.Agent

open Conc Librarian.Core Librarian.Protocol

variable {P : Primitives}

/-- What a thread has read in its present section under the commit gate. -/
structure Seen where
  epoch : Option ℕ := none
  /-- No Lock is in progress. -/
  lockClear : Bool := false
  /-- A request that is not cancelled. -/
  uncancelled : Option RequestKey := none
  generation : Option ℕ := none
  deriving DecidableEq

/-- What a thread knows after one more action. What it changes itself under the gate it has to read
anew. -/
def Seen.after (seen : Seen) : (a : Action P) → a.Result → Seen
  | .loadEpoch, epoch => { seen with epoch := some epoch }
  | .loadActive .lock, active => { seen with lockClear := !active }
  | .isCancelled key, cancelled => { seen with uncancelled := if cancelled then none else some key }
  | .loadAccountsGeneration, generation => { seen with generation := some generation }
  | a, _ => if .commitGate ∈ a.guard then {} else seen

/-- What a thread has read is still so. -/
structure Seen.Holds (seen : Seen) (s : Shared) : Prop where
  epoch : ∀ epoch ∈ seen.epoch, s.epoch = epoch
  lockClear : seen.lockClear = true → s.active .lock = false
  uncancelled : ∀ key ∈ seen.uncancelled, s.cancelled key = false
  generation : ∀ generation ∈ seen.generation, s.accounts_generation = generation

variable {seen : Seen} {s : Shared} {a : Action P}

theorem Seen.holds_nothing : ({} : Seen).Holds s where
  epoch _ h := nomatch h
  lockClear h := nomatch h
  uncancelled _ h := nomatch h
  generation _ h := nomatch h

/-- What is done without the gate does not disturb a section. -/
theorem Seen.Holds.perform (h : seen.Holds s) (hguard : .commitGate ∉ a.guard) (o : Oracle) :
    seen.Holds (Agent.perform a o s).2 where
  epoch epoch hepoch := (perform_epoch hguard o s).trans (h.epoch epoch hepoch)
  lockClear hclear := perform_lockActive hguard o s (h.lockClear hclear)
  uncancelled key hkey := by
    rw [perform_cancelled hguard o s]
    exact h.uncancelled key hkey
  generation generation hgeneration :=
    (perform_accountsGeneration hguard o s).trans (h.generation generation hgeneration)

/-- What the thread itself does in its section it knows of. -/
theorem Seen.Holds.after (h : seen.Holds s) (a : Action P) (o : Oracle) :
    (seen.after a (Agent.perform a o s).1).Holds (Agent.perform a o s).2 := by
  have hother : (if .commitGate ∈ a.guard then ({} : Seen) else seen).Holds
      (Agent.perform a o s).2 := by
    split_ifs with hguard
    · exact Seen.holds_nothing
    · exact h.perform hguard o
  cases a with
  | loadEpoch => exact ⟨fun _ he => Option.some.inj he, h.lockClear, h.uncancelled, h.generation⟩
  | loadActive flag =>
    cases flag with
    | lock =>
      refine ⟨h.epoch, fun hclear => ?_, h.uncancelled, h.generation⟩
      simpa [Seen.after, Agent.perform] using hclear
    | kdf | mutation | windowsHello => exact hother
  | isCancelled key =>
    refine ⟨h.epoch, h.lockClear, fun key' hkey => ?_, h.generation⟩
    cases hcancelled : s.cancelled key with
    | true => simp [Seen.after, Agent.perform, hcancelled] at hkey
    | false =>
      obtain rfl : key = key' := by simpa [Seen.after, Agent.perform, hcancelled] using hkey
      exact hcancelled
  | loadAccountsGeneration =>
    exact ⟨h.epoch, h.lockClear, h.uncancelled, fun _ hg => Option.some.inj hg⟩
  | _ => exact hother

/-! ## Disciplines with sections -/

section

variable {Φ : Type}

/-- A discipline of the agent in which the phase comes with what is known under the commit gate.
Every action is performed under the mutexes that guard it. -/
def knowing (start : Φ) (next : Φ → (a : Action P) → a.Result → Φ) (release : Φ → Mutex → Φ)
    (allows : Option Seen → Φ → Action P → Prop) (acquire : Φ → Mutex → Φ := fun φ _ => φ) :
    Discipline (machine P) (Option Seen × Φ) where
  start := (none, start)
  next φ a r := (φ.1.map fun seen => seen.after a r, next φ.2 a r)
  acquire φ m := (if m = .commitGate then some {} else φ.1, acquire φ.2 m)
  release φ m := (if m = .commitGate then none else φ.1, release φ.2 m)
  allows φ H a := a.guard ⊆ H ∧ allows φ.1 φ.2 a
  locks _ _ _ := True
  releases _ _ := True

/-- What the threads know under the commit gate is so. -/
def Informed (s : Shared) (phase : ℕ → Option Seen × Φ) (holder : Mutex → Option ℕ) : Prop :=
  ∀ t seen, (phase t).1 = some seen → holder .commitGate = some t ∧ seen.Holds s

variable {phase : ℕ → Option Seen × Φ} {holder : Mutex → Option ℕ} {t : ℕ}

/-- The action of a thread under the gate is not met by a section of another thread. -/
theorem Informed.unguarded (h : Informed s phase holder) (hguard : a.guard ⊆ heldBy holder t)
    {t' : ℕ} (hne : t' ≠ t) {seen : Seen} (hseen : (phase t').1 = some seen) :
    .commitGate ∉ a.guard := by
  intro hgate
  have hheld : holder .commitGate = some t := mem_heldBy.mp (hguard hgate)
  rw [(h t' seen hseen).1] at hheld
  exact hne (Option.some.inj hheld)

theorem Informed.action (h : Informed s phase holder) (hguard : a.guard ⊆ heldBy holder t)
    (o : Oracle) (φ : Φ) : Informed (perform a o s).2
      (Function.update phase t ((phase t).1.map fun seen => seen.after a (perform a o s).1, φ))
      holder := by
  intro t' seen hseen
  by_cases ht : t' = t
  · subst ht
    rw [Function.update_self] at hseen
    obtain ⟨seen', hseen', rfl⟩ := Option.map_eq_some_iff.mp hseen
    obtain ⟨hheld, hholds⟩ := h t' seen' hseen'
    exact ⟨hheld, hholds.after a o⟩
  · rw [Function.update_of_ne ht] at hseen
    obtain ⟨hheld, hholds⟩ := h t' seen hseen
    exact ⟨hheld, hholds.perform (h.unguarded hguard ht hseen) o⟩

theorem Informed.acquire (h : Informed s phase holder) {m : Mutex} (hfree : holder m = none)
    (φ : Φ) : Informed s
      (Function.update phase t (if m = .commitGate then some {} else (phase t).1, φ))
      (Function.update holder m (some t)) := by
  have hkeep {t' : ℕ} (hheld : holder .commitGate = some t') :
      Function.update holder m (some t) .commitGate = some t' := by
    have hm : Mutex.commitGate ≠ m := by
      rintro rfl
      simp [hheld] at hfree
    rw [Function.update_of_ne hm, hheld]
  intro t' seen hseen
  by_cases ht : t' = t
  · subst ht
    rw [Function.update_self] at hseen
    dsimp only at hseen
    split_ifs at hseen with hm
    · subst hm
      cases hseen
      exact ⟨Function.update_self _ _ _, Seen.holds_nothing⟩
    · obtain ⟨hheld, hholds⟩ := h t' seen hseen
      exact ⟨hkeep hheld, hholds⟩
  · rw [Function.update_of_ne ht] at hseen
    obtain ⟨hheld, hholds⟩ := h t' seen hseen
    exact ⟨hkeep hheld, hholds⟩

theorem Informed.release (h : Informed s phase holder) {m : Mutex} (hholds : holder m = some t)
    (φ : Φ) : Informed s
      (Function.update phase t (if m = .commitGate then none else (phase t).1, φ))
      (Function.update holder m none) := by
  intro t' seen hseen
  have hm : m ≠ .commitGate ∧ (phase t').1 = some seen := by
    by_cases ht : t' = t
    · subst ht
      rw [Function.update_self] at hseen
      dsimp only at hseen
      split_ifs at hseen with hm
      exact ⟨hm, hseen⟩
    · rw [Function.update_of_ne ht] at hseen
      refine ⟨?_, hseen⟩
      rintro rfl
      rw [(h t' seen hseen).1] at hholds
      exact ht (Option.some.inj hholds)
  obtain ⟨hheld, hknown⟩ := h t' seen hm.2
  exact ⟨by rw [Function.update_of_ne hm.1.symm, hheld], hknown⟩

end

/-! ## Sections of a history -/

/-- What has happened since a thread took the commit gate, which nobody has given back since. -/
def IsSection (t : ℕ) (history events : History (machine P)) : Prop :=
  (∃ earlier, history = events ++ .acquire t .commitGate :: earlier) ∧
    ∀ t', .release t' .commitGate ∉ events

theorem IsSection.cons {t : ℕ} {history events : History (machine P)}
    (h : IsSection t history events) {event : Event (machine P)}
    (hevent : ∀ t', event ≠ .release t' .commitGate) :
    IsSection t (event :: history) (event :: events) := by
  obtain ⟨⟨earlier, rfl⟩, hnone⟩ := h
  refine ⟨⟨earlier, rfl⟩, fun t' hmem => ?_⟩
  obtain hhead | htail := List.mem_cons.mp hmem
  · exact hevent t' hhead.symm
  · exact hnone t' htail

/-- Whoever holds the commit gate is in a section. -/
def Sectioned (history : History (machine P)) (holder : Mutex → Option ℕ) : Prop :=
  ∀ t, holder .commitGate = some t → ∃ events, IsSection t history events

section

variable {history : History (machine P)} {holder : Mutex → Option ℕ} {t : ℕ}

theorem Sectioned.action (h : Sectioned history holder) (a : Action P) (r : a.Result)
    (s : Shared) : Sectioned (.action t a r s :: history) holder := by
  intro t' ht'
  obtain ⟨events, hsection⟩ := h t' ht'
  exact ⟨_, hsection.cons (by simp)⟩

theorem Sectioned.acquire (h : Sectioned history holder) (m : Mutex) :
    Sectioned (.acquire t m :: history) (Function.update holder m (some t)) := by
  intro t' ht'
  by_cases hm : m = .commitGate
  · subst hm
    rw [Function.update_self] at ht'
    obtain rfl := Option.some.inj ht'
    exact ⟨[], ⟨history, rfl⟩, by simp⟩
  · rw [Function.update_of_ne (Ne.symm hm)] at ht'
    obtain ⟨events, hsection⟩ := h t' ht'
    exact ⟨_, hsection.cons (by simp)⟩

theorem Sectioned.release (h : Sectioned history holder) (m : Mutex) :
    Sectioned (.release t m :: history) (Function.update holder m none) := by
  intro t' ht'
  have hm : m ≠ .commitGate := by
    rintro rfl
    rw [Function.update_self] at ht'
    cases ht'
  rw [Function.update_of_ne hm.symm] at ht'
  obtain ⟨events, hsection⟩ := h t' ht'
  exact ⟨_, hsection.cons (by simp [hm])⟩

end

/-! ## Registrations under any discipline -/

/-- What the registration of an admitted request consists of. -/
def Action.Registers : Action P → Prop
  | .now | .acquireGlobal | .releaseGlobal | .register _ | .connectionFinish _
  | .connectionIsCancelled _ | .cancelFlag _ => True
  | _ => False

section

variable {connection : Connection} {permit : RequestPermit} {deadline : ℕ}

/-- What `register_request` decides: the context that it admits is the request's own. -/
def Registered (connection : Connection) (permit : RequestPermit) (deadline : ℕ)
    (admission : RequestAdmission) (H : Finset Mutex) : Prop :=
  H = admission.held ∧ ∀ context permit', admission = .admitted context permit' →
    permit' = permit ∧ context = ⟨⟨connection.connection_id, permit.request_id⟩,
      permit.unlock_epoch, deadline, connection.authenticated_process_id⟩

theorem refuseBusy_registers :
    wp (M := machine P) (guards (fun H a => a.guard ⊆ H ∧ a.Registers) Below)
      (refuseBusy deadline) (fun admission _ H => Registered connection permit deadline admission H)
      () {.commitGate} := by
  refine ⟨⟨Finset.empty_subset _, trivial⟩, fun now => ?_⟩
  refine (wp_ite (M := machine P)).mpr ⟨fun _ => ?_, fun _ => ?_⟩
  · exact ⟨rfl, fun _ _ h => by cases h⟩
  · exact ⟨rfl, fun _ _ h => by cases h⟩

theorem registerRequest_registers :
    wp (M := machine P) (guards (fun H a => a.guard ⊆ H ∧ a.Registers) Below)
      (registerRequest connection permit deadline)
      (fun admission _ H => Registered connection permit deadline admission H) () {.commitGate} := by
  have hgate : Mutex.commitGate ∈ ({.commitGate} : Finset Mutex) := Finset.mem_singleton_self _
  have hfatal : Registered connection permit deadline .fatal
      (({.commitGate} : Finset Mutex).erase .commitGate) :=
    ⟨gate_released, fun _ _ h => by cases h⟩
  refine ⟨⟨Finset.empty_subset _, trivial⟩, fun acquired =>
    (wp_ite (M := machine P)).mpr ⟨fun _ => ?_, fun _ => ?_⟩⟩
  · refine ⟨⟨by simp [Action.guard], trivial⟩, fun completed => ?_⟩
    cases completed with
    | error e => exact ⟨hgate, trivial, hfatal⟩
    | ok completion => exact refuseBusy_registers
  · refine ⟨by simp [Mutex.rank], fun _ => ?_⟩
    refine ⟨⟨by simp [Action.guard, Finset.insert_subset_iff], trivial⟩, fun registered => ?_⟩
    refine ⟨Finset.mem_insert_self _ _, trivial, ?_⟩
    rw [Finset.erase_insert (by simp), Prog.ret_bind]
    refine (wp_ite (M := machine P)).mpr ⟨fun _ => ?_, fun _ => ?_⟩
    · exact ⟨⟨Finset.empty_subset _, trivial⟩, fun _ => ⟨hgate, trivial, hfatal⟩⟩
    · refine ⟨⟨Finset.empty_subset _, trivial⟩, fun cancelled => ?_⟩
      have hadmitted : Registered connection permit deadline
          (.admitted ⟨⟨connection.connection_id, permit.request_id⟩, permit.unlock_epoch, deadline,
            connection.authenticated_process_id⟩ permit)
          (({.commitGate} : Finset Mutex).erase .commitGate) := by
        refine ⟨gate_released, fun context permit' h => ?_⟩
        obtain ⟨rfl, rfl⟩ := RequestAdmission.admitted.inj h
        exact ⟨rfl, rfl⟩
      cases cancelled with
      | false => exact ⟨hgate, trivial, hadmitted⟩
      | true =>
        refine ⟨⟨by simp [Action.guard], trivial⟩, fun _ => ?_⟩
        exact ⟨hgate, trivial, hadmitted⟩

/-- A registration keeps whatever its actions keep, in every discipline that allows them. -/
theorem wp_registration {Φ : Type} {D : Discipline (machine P) Φ} {I : Φ → Prop} {φ : Φ}
    (hφ : I φ)
    (hact : ∀ a φ H, I φ → a.guard ⊆ H → a.Registers →
      D.allows φ H a ∧ ∀ r, I (D.next φ a r))
    (hlock : ∀ φ H m, I φ → D.locks φ H m ∧ I (D.acquire φ m))
    (hrelease : ∀ φ m, I φ → D.releases φ m ∧ I (D.release φ m)) :
    wp D (registerRequest connection permit deadline)
      (fun admission φ' H => I φ' ∧ Registered connection permit deadline admission H) φ
      {.commitGate} :=
  wp_of_guards_results (M := machine P) registerRequest_registers hφ
    (fun a φ H h hguards => hact a φ H h hguards.1 hguards.2) (fun φ H m h _ => hlock φ H m h)
    hrelease

end

end Librarian.Agent
