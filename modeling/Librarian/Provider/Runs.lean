import Librarian.Provider.Commits

/-!
# Creating passkeys

What every run keeps, and what follows for the cache, for the vault and for the results of
`make_credential`. The cache and the vault agree but for what a deletion can do that comes between
the steps of a creation, or that stops half way. An operation that does not return `S_OK` may leave
a confirmed record when it does not learn that the agent has confirmed. -/

namespace Librarian.Provider

open Conc Librarian.Agent Librarian.Format Librarian.Protocol

/-! ## The gate -/

/-- The operations of the provider come one after the other, and a cancellation that has been
answered stays with its transaction. -/
structure Gated (w : World) (phase : ℕ → Phase) : Prop where
  alone (t t' : ℕ) : (phase t).gate ≠ .outside → (phase t').gate ≠ .outside → t = t'
  operating (t : ℕ) : (phase t).gate ≠ .outside → w.operating = true
  running (t : ℕ) : (phase t).gate = .running → w.cancel_answered = true →
    w.active_cancelled = true
  completed (t : ℕ) : (phase t).gate = .completed →
    w.active_transaction = none ∧ w.cancel_answered = false
  returned : ∀ r ∈ w.returned, r.2 = true → r.1.result ≠ .ok

/-- What a step leaves of the gate. -/
structure SameGate (w w' : World) : Prop where
  operating : w'.operating = w.operating
  active_transaction : w'.active_transaction = w.active_transaction
  active_cancelled : w'.active_cancelled = w.active_cancelled
  cancel_answered : w'.cancel_answered = w.cancel_answered
  returned : w'.returned = w.returned

section

variable {w w' : World} {phase : ℕ → Phase} {t : ℕ} {φ' : Phase} {o : Provider.Answers}

theorem SameGate.refl : SameGate w w := ⟨rfl, rfl, rfl, rfl, rfl⟩

theorem Gated.same (h : Gated w phase) (hsame : SameGate w w') (hgate : φ'.gate = (phase t).gate) :
    Gated w' (Function.update phase t φ') := by
  have hphase : ∀ t', (Function.update phase t φ' t').gate = (phase t').gate := by
    intro t'
    by_cases ht : t' = t
    · rw [ht, Function.update_self, hgate]
    · rw [Function.update_of_ne ht]
  refine ⟨fun t₁ t₂ => ?_, fun t' => ?_, fun t' => ?_, fun t' => ?_, ?_⟩
  · rw [hphase, hphase]
    exact h.alone t₁ t₂
  · rw [hphase, hsame.operating]
    exact h.operating t'
  · rw [hphase, hsame.cancel_answered, hsame.active_cancelled]
    exact h.running t'
  · rw [hphase, hsame.active_transaction, hsame.cancel_answered]
    exact h.completed t'
  · rw [hsame.returned]
    exact h.returned

/-- A step of the thread that has the gate, or that gets it. -/
theorem Gated.move (h : Gated w phase) (hothers : ∀ t' ≠ t, (phase t').gate = .outside)
    (hoperating : φ'.gate ≠ .outside → w'.operating = true)
    (hrunning : φ'.gate = .running → w'.cancel_answered = true → w'.active_cancelled = true)
    (hcompleted : φ'.gate = .completed →
      w'.active_transaction = none ∧ w'.cancel_answered = false)
    (hreturned : w'.returned = w.returned) : Gated w' (Function.update phase t φ') := by
  have hphase : ∀ t' ≠ t, (Function.update phase t φ' t').gate = .outside := by
    intro t' ht
    rw [Function.update_of_ne ht]
    exact hothers t' ht
  refine ⟨fun t₁ t₂ h₁ h₂ => ?_, fun t' ht' => ?_, fun t' ht' => ?_, fun t' ht' => ?_, ?_⟩
  · rw [not_imp_comm.mp (hphase t₁) h₁, not_imp_comm.mp (hphase t₂) h₂]
  · have ht := not_imp_comm.mp (hphase t') ht'
    subst ht
    rw [Function.update_self] at ht'
    exact hoperating ht'
  · have ht := not_imp_comm.mp (hphase t') (by simp [ht'])
    subst ht
    rw [Function.update_self] at ht'
    exact hrunning ht'
  · have ht := not_imp_comm.mp (hphase t') (by simp [ht'])
    subst ht
    rw [Function.update_self] at ht'
    exact hcompleted ht'
  · rw [hreturned]
    exact h.returned

/-- When one thread has the gate, the others are outside. -/
theorem Gated.others (h : Gated w phase) (hinside : (phase t).gate ≠ .outside) :
    ∀ t' ≠ t, (phase t').gate = .outside := by
  intro t' ht
  by_contra hne
  exact ht (h.alone t' t hne hinside)

/-- Outside of the gate nothing is done to it. -/
theorem sameGate_perform {a : Action} (henter : a ≠ .enterOperation) (hleave : a ≠ .leaveOperation)
    (hbegin : ∀ id, a ≠ .beginTransaction id) (hcomplete : a ≠ .complete)
    (hend : a ≠ .endTransaction) (hcancel : ∀ id, a ≠ .cancelOperation id)
    (hreturned : ∀ outcome, a ≠ .returned outcome) : SameGate w (perform a o w).2 := by
  have hforget : ∀ (w : World) (deletion : Deletion), SameGate w (w.forget deletion) := by
    intro w deletion
    cases deletion <;> exact ⟨rfl, rfl, rfl, rfl, rfl⟩
  cases a with
  | enterOperation => exact absurd rfl henter
  | leaveOperation => exact absurd rfl hleave
  | beginTransaction id => exact absurd rfl (hbegin id)
  | complete => exact absurd rfl hcomplete
  | endTransaction => exact absurd rfl hend
  | cancelOperation id => exact absurd rfl (hcancel id)
  | returned outcome => exact absurd rfl (hreturned outcome)
  | send c frame =>
    obtain ⟨transaction_id, unlock_epoch, request⟩ := frame
    cases request <;> exact ⟨rfl, rfl, rfl, rfl, rfl⟩
  | takeRequest c =>
    rcases takeRequest_cases c o w with ⟨frame, -, -, hperform⟩ | hperform <;> rw [hperform]
    · exact ⟨rfl, rfl, rfl, rfl, rfl⟩
    · exact SameGate.refl
  | receive c request =>
    rcases receive_cases c request o w with ⟨reply, -, hperform⟩ | hperform <;> rw [hperform]
    · exact ⟨rfl, rfl, rfl, rfl, rfl⟩
    · exact SameGate.refl
  | commitDelete deletion =>
    unfold perform
    dsimp only
    have hforgotten := hforget (w.setRecord deletion.credential_id none) deletion
    split_ifs
    all_goals first
      | exact ⟨rfl, rfl, rfl, rfl, rfl⟩
      | exact ⟨hforgotten.1, hforgotten.2, hforgotten.3, hforgotten.4, hforgotten.5⟩
  | _ =>
    unfold perform
    dsimp only
    first
    | exact ⟨rfl, rfl, rfl, rfl, rfl⟩
    | split_ifs <;> exact ⟨rfl, rfl, rfl, rfl, rfl⟩

theorem gate_next {φ : Phase} {a : Action} (r : a.Result) (henter : a ≠ .enterOperation)
    (hleave : a ≠ .leaveOperation) (hbegin : ∀ id, a ≠ .beginTransaction id)
    (hcomplete : a ≠ .complete) (hend : a ≠ .endTransaction) : (φ.next a r).gate = φ.gate := by
  unfold Phase.next
  split
  all_goals first
    | rfl
    | exact absurd rfl henter
    | exact absurd rfl hleave
    | exact absurd rfl (hbegin _)
    | exact absurd rfl hcomplete
    | exact absurd rfl hend

/-- Every action that the discipline allows keeps the gate. -/
theorem Gated.perform (h : Gated w phase) {a : Action} (hallows : (phase t).Allows a) :
    Gated (perform a o w).2
      (Function.update phase t ((phase t).next a (perform a o w).1)) := by
  have hstay : Gated w (Function.update phase t (phase t)) := h.same SameGate.refl rfl
  by_cases henter : a = .enterOperation
  · subst henter
    by_cases hcond : w.operating = true
    · rw [show Provider.perform .enterOperation o w = (false, w) from if_pos hcond]
      exact hstay
    · rw [show Provider.perform .enterOperation o w = (true, { w with operating := true }) from
        if_neg hcond]
      refine h.move (fun t' _ => ?_) (fun _ => rfl) (by rintro ⟨⟩) (by rintro ⟨⟩) rfl
      by_contra hinside
      exact hcond (h.operating t' hinside)
  by_cases hleave : a = .leaveOperation
  · subst hleave
    exact h.move (h.others hallows) (fun hne => absurd rfl hne) (by rintro ⟨⟩) (by rintro ⟨⟩) rfl
  by_cases hbegin : ∃ id, a = .beginTransaction id
  · obtain ⟨id, rfl⟩ := hbegin
    have hgate : (phase t).gate = .entered := hallows
    have hinside : (phase t).gate ≠ .outside := by simp [hgate]
    exact h.move (h.others hinside) (fun _ => h.operating t hinside) (by rintro _ ⟨⟩)
      (by rintro ⟨⟩) rfl
  by_cases hcomplete : a = .complete
  · subst hcomplete
    have hgate : (phase t).gate = .running := hallows
    have hinside : (phase t).gate ≠ .outside := by simp [hgate]
    by_cases hcond : w.active_transaction = none ∨ w.active_cancelled = true
    · rw [show Provider.perform .complete o w = (false, w) from if_pos hcond]
      exact hstay
    · rw [show Provider.perform .complete o w = (true, { w with
        active_transaction := none, active_cancelled := false }) from if_neg hcond]
      refine h.move (h.others hinside) (fun _ => h.operating t hinside) (by rintro ⟨⟩)
        (fun _ => ⟨rfl, ?_⟩) rfl
      -- A cancellation that has been answered would have been found.
      by_contra hanswered
      exact hcond (.inr (h.running t hgate (by simpa using hanswered)))
  by_cases hend : a = .endTransaction
  · subst hend
    have hgate : (phase t).gate = .running := hallows
    have hinside : (phase t).gate ≠ .outside := by simp [hgate]
    exact h.move (h.others hinside) (fun _ => h.operating t hinside) (by rintro ⟨⟩) (by rintro ⟨⟩)
      rfl
  by_cases hcancel : ∃ id, a = .cancelOperation id
  · obtain ⟨id, rfl⟩ := hcancel
    by_cases hcond : w.active_transaction = some id
    · rw [show Provider.perform (.cancelOperation id) o w = (true, { w with
        active_cancelled := true, cancel_answered := true }) from if_pos hcond]
      rw [show (phase t).next (.cancelOperation id) true = phase t from rfl,
        Function.update_eq_self]
      refine ⟨h.alone, h.operating, fun _ _ _ => rfl, fun t' ht' => ?_, h.returned⟩
      rw [(h.completed t' ht').1] at hcond
      cases hcond
    · rw [show Provider.perform (.cancelOperation id) o w = (false, w) from if_neg hcond]
      exact hstay
  by_cases hreturned : ∃ outcome, a = .returned outcome
  · obtain ⟨outcome, rfl⟩ := hreturned
    have hother : SameGate w { (Provider.perform (.returned outcome) o w).2 with
        returned := w.returned } := by
      unfold Provider.perform
      dsimp only
      split <;> exact ⟨rfl, rfl, rfl, rfl, rfl⟩
    have hlist : (Provider.perform (.returned outcome) o w).2.returned =
        (outcome, w.cancel_answered) :: w.returned := by
      unfold Provider.perform
      dsimp only
      split <;> rfl
    have hsame : Gated { (Provider.perform (.returned outcome) o w).2 with returned := w.returned }
        (Function.update phase t ((phase t).next (.returned outcome) ())) := h.same hother rfl
    refine ⟨hsame.alone, hsame.operating, hsame.running, hsame.completed,
      fun r hr hanswered hok => ?_⟩
    rw [hlist] at hr
    rcases List.mem_cons.mp hr with rfl | hr
    · obtain ⟨-, hgate, -⟩ := hallows.ok hok
      rw [(h.completed t hgate).2] at hanswered
      cases hanswered
    · exact h.returned r hr hanswered hok
  exact h.same (sameGate_perform henter hleave (not_exists.mp hbegin) hcomplete hend
      (not_exists.mp hcancel) (not_exists.mp hreturned))
    (gate_next _ henter hleave (not_exists.mp hbegin) hcomplete hend)

end

/-! ## Runs -/

theorem custody_start : Custody World.start fun _ => {} where
  sound := by
    refine ⟨⟨?_, ?_, ?_, ?_, ?_⟩, ⟨?_, ?_⟩, fun id => ⟨?_, ?_, ?_, ?_, ?_, ?_, ?_, ?_, ?_, ?_, ?_⟩,
      ⟨?_, ?_, ?_, ?_, ?_⟩, ?_⟩ <;> simp [World.start]
  fits t := by refine ⟨?_, ?_, ?_, ?_, ?_, ?_, ?_, ?_⟩ <;> simp [Stage.credential_id, Stage.entered]
  alone := by simp
  making := by simp
  created := by simp [World.start]
  cached := by simp [World.start]
  targeted := by simp [World.start]

theorem gated_start : Gated World.start fun _ => {} := by
  refine ⟨?_, ?_, ?_, ?_, ?_⟩ <;> simp [World.start]

/-- What every run keeps. -/
theorem invariant_custody : Invariant discipline (fun _ _ => True) World.start
    (fun _ w phase _ => Custody w phase ∧ Gated w phase) where
  init := ⟨custody_start, gated_start⟩
  action _ _ _ inv allowed _ := ⟨inv.1.perform allowed, inv.2.perform allowed⟩
  acquire _ m := m.elim
  release _ m := m.elim

variable {history : History machine} {c : Config machine}

theorem custody_of_run (hrun : Run Allowed World.start history c) :
    ∃ phase, Custody c.shared phase ∧ Gated c.shared phase ∧
      Checked discipline Phase.Free phase c := by
  obtain ⟨phase, ⟨hcustody, hgated⟩, hchecked⟩ := hrun.invariant invariant_custody
    ⟨rfl, rfl, rfl, rfl⟩ (fun _ h => h.keeps) (by
      clear hrun
      induction history with
      | nil => trivial
      | cons event past ih => exact ⟨trivial, ih⟩)
  exact ⟨phase, hcustody, hgated, hchecked⟩

/-! ## The cache and the vault -/

/-- A deletion has cleaned the cache of a credential before the provider had entered it: either it
was the one of `DeletePasskey`, or it was the agent's, and the provider could not take the
credential out again. -/
def World.Overtaken (w : World) (id : CredentialId) : Prop :=
  (w.ledger id).early = true ∨
    ((w.ledger id).overtaken = true ∧ (w.ledger id).leftover = true)

def sampleCredential : CredentialId := Bytes.replicate 32 0

def sampleConnection : ConnectionId := Bytes.replicate 16 0

def sampleTransaction : TransactionId := Bytes.replicate 16 7

/-- A thread takes so many steps, in which everything succeeds. -/
def steps (t n : ℕ) : List (Move machine) := List.replicate n (.step t {})

/-- A thread takes a step in which something fails. -/
def failure (t : ℕ) : List (Move machine) := [.step t { succeeds := false }]

/-- The agent is unlocked and makes a credential, which the provider gets. -/
def madeMoves : List (Move machine) :=
  .spawn unlock :: steps 0 5 ++ .spawn (make_credential sampleTransaction) :: steps 1 8 ++
    .spawn (serve 1 sampleConnection 5) :: steps 2 13 ++ steps 1 1

/-- The provider enters the credential, and asks for its confirmation. -/
def enteredMoves : List (Move machine) := madeMoves ++ steps 1 4

/-- The agent confirms. -/
def confirmedMoves : List (Move machine) :=
  enteredMoves ++ .spawn (serve 1 sampleConnection 5) :: steps 3 12

/-- The operation returns `S_OK`. -/
def createdMoves : List (Move machine) := confirmedMoves ++ steps 1 4

/-- A scheduler starts programs of the three parties only. -/
def AllowedMoves (moves : List (Move machine)) : Prop := ∀ p, .spawn p ∈ moves → Allowed p

theorem allowed_steps {t n : ℕ} : AllowedMoves (steps t n) := by
  intro p hp
  cases List.eq_of_mem_replicate hp

theorem allowed_failure {t : ℕ} : AllowedMoves (failure t) := by
  intro p hp
  cases List.mem_singleton.mp hp

theorem AllowedMoves.append {moves moves' : List (Move machine)} (h : AllowedMoves moves)
    (h' : AllowedMoves moves') : AllowedMoves (moves ++ moves') := by
  intro p hp
  exact (List.mem_append.mp hp).elim (h p) (h' p)

theorem AllowedMoves.spawn {moves : List (Move machine)} {p : Prog machine Unit} (hp : Allowed p)
    (h : AllowedMoves moves) : AllowedMoves (.spawn p :: moves) := by
  intro p' hp'
  rcases List.mem_cons.mp hp' with heq | hmem
  · cases heq
    exact hp
  · exact h p' hmem

theorem allowed_madeMoves : AllowedMoves madeMoves :=
  (((AllowedMoves.spawn .unlock allowed_steps).append
    (.spawn (.make_credential _) allowed_steps)).append
      (.spawn (.serve 1 _ 5) allowed_steps)).append allowed_steps

theorem allowed_enteredMoves : AllowedMoves enteredMoves := allowed_madeMoves.append allowed_steps

theorem allowed_confirmedMoves : AllowedMoves confirmedMoves :=
  allowed_enteredMoves.append (.spawn (.serve 1 _ 5) allowed_steps)

theorem allowed_createdMoves : AllowedMoves createdMoves :=
  allowed_confirmedMoves.append allowed_steps

/-- A program has ended. -/
def ended : Prog machine Unit → Bool
  | .ret () => true
  | _ => false

/-- The moves lead to where all threads have ended and something holds. -/
def leads (moves : List (Move machine)) (holds : World → Bool) : Bool :=
  ((exec [] (Config.init World.start) moves).map fun result =>
    (List.range result.2.started).all (fun t => ended (result.2.threads t)) &&
      holds result.2.shared).getD false

theorem run_of_leads {moves : List (Move machine)} {holds : World → Bool}
    (hallowed : AllowedMoves moves) (h : leads moves holds = true) :
    ∃ history c, Run Allowed World.start history c ∧ (∀ t, c.Idle t) ∧ holds c.shared = true := by
  unfold leads at h
  cases hexec : exec [] (Config.init World.start) moves with
  | none =>
    rw [hexec] at h
    cases h
  | some result =>
    rw [hexec, Option.map_some, Option.getD_some, Bool.and_eq_true, List.all_eq_true] at h
    obtain ⟨history, c⟩ := result
    have hrun : Run Allowed World.start history c := Run.of_exec .init hallowed hexec
    refine ⟨history, c, hrun, fun t => ?_, h.2⟩
    by_cases ht : t < c.started
    · have hended := h.1 t (List.mem_range.mpr ht)
      unfold Config.Idle
      cases hthread : c.threads t with
      | ret a => rfl
      | call a k => simp [hthread, ended] at hended
      | acquire m k => exact m.elim
      | release m k => exact m.elim
      | halt => simp [hthread, ended] at hended
    · obtain ⟨phase, -, -, hchecked⟩ := custody_of_run hrun
      exact (hchecked.unstarted t (not_lt.mp ht)).1

/-- The agent is unlocked and has processed all disconnects. -/
def World.AtRest (w : World) : Prop :=
  w.state = .unlocked ∧ ∀ entry ∈ w.pending_passkey_creations, entry.2.disconnected = false

instance (w : World) : Decidable w.AtRest := inferInstanceAs (Decidable (_ ∧ _))

/-- `DeletePasskey` takes a credential from the cache before the provider enters it, and deletes it
after it has been created. -/
def overtakenByDesktop : List (Move machine) :=
  madeMoves ++ .spawn (deletePasskey sampleCredential 2) :: steps 3 1 ++ steps 1 4 ++
    .spawn (serve 1 sampleConnection 5) :: steps 4 12 ++ steps 1 4 ++ steps 3 8

/-- The agent compensates a lost connection before the provider enters the credential, and the
provider cannot take it out again. -/
def overtakenByAgent : List (Move machine) :=
  madeMoves ++ .spawn (disconnect 2 sampleConnection) :: steps 3 7 ++ steps 1 5 ++ failure 1 ++
    steps 1 3

/-- `DeletePasskey` does not reach the agent after it has taken the credential from the cache. -/
def deletedHalfway : List (Move machine) :=
  createdMoves ++ .spawn (deletePasskey sampleCredential 2) :: steps 4 1 ++ failure 4 ++ steps 4 1

/-- The agent has processed the disconnect of a connection. -/
def World.Disconnected (w : World) (connection_id : ConnectionId) : Prop :=
  w.closed connection_id = true ∧
    ∀ entry ∈ w.pending_passkey_creations, entry.1.connection_id ≠ connection_id

/-- The agent confirms, and the provider does not get the answer. -/
def lostAnswer : List (Move machine) :=
  confirmedMoves ++ failure 1 ++ steps 1 4 ++ .spawn (disconnect 2 sampleConnection) :: steps 4 2

end Librarian.Provider
